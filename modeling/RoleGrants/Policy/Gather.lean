import RoleGrants.Store.Queries

/-! # Gathering the resources of a role

A role is given the resources of every enabled menu linked to it and of all
ancestors of those menus.  Ancestors are named by the path of a menu; a parent
that the path does not name is asked for, so that its own ancestors are found.

Each step makes one query.  Of rows with one key the row with the least id is
kept, and the rows are in the order of their keys. -/

set_option autoImplicit false

namespace RoleGrants

inductive Gather where
  | linked
  | parents (known wanted : List String)
  | collect (known : List String)
  | done (answer : Except StoreError (List Resource))

namespace Gather

/-- Takes in what one menu names; its parent is wanted when it is new. -/
def visit (known wanted : List String) (menu : MenuRef) : List String × List String :=
  let named := ancestorIds menu.parentPath
  let seen := insertAll named known
  if menu.parentId ≠ "" ∧ ¬ named.contains menu.parentId ∧ ¬ seen.contains menu.parentId then
    (insertNew menu.parentId seen, wanted ++ [menu.parentId])
  else (seen, wanted)

def visitAll : List String → List String → List MenuRef → List String × List String
  | known, wanted, [] => (known, wanted)
  | known, wanted, menu :: menus =>
      let (seen, more) := visit known wanted menu
      visitAll seen more menus

def climb (known : List String) (frontier : List MenuRef) : Gather :=
  match visitAll known [] frontier with
  | (seen, []) => .collect seen
  | (seen, wanted) => .parents seen wanted

/-- One row for each key, in the order of the keys. -/
def distinct (rows : List Resource) : List Resource :=
  dropRepeats Resource.key (sortBy Resource.key rows)

def advance (queries : Queries) (roleId : String) : Gather → Gather
  | .linked =>
      match queries.roleMenus roleId with
      | .error error => .done (.error error)
      | .ok [] => .done (.ok [])
      | .ok menus => climb (ascending (menus.map MenuRef.id)) menus
  | .parents known wanted =>
      match queries.menus wanted with
      | .error error => .done (.error error)
      | .ok menus => climb known menus
  | .collect known =>
      match queries.menuResources known with
      | .error error => .done (.error error)
      | .ok rows => .done (.ok (distinct rows))
  | .done answer => .done answer

def endless : StoreError :=
  .unexpected "menus without end"

def run (queries : Queries) (roleId : String) : Nat → Gather → Except StoreError (List Resource)
  | _, .done answer => answer
  | 0, _ => .error endless
  | fuel + 1, gather => run queries roleId fuel (gather.advance queries roleId)

end Gather

namespace StoreAccess

/-- More rounds than a store has menus are never needed. -/
def gatherFuel (access : StoreAccess) : Nat :=
  access.memory.menus.size + 4

def resourcesOf (access : StoreAccess) (roleId : String) : Except StoreError (List Resource) :=
  Gather.run access.queries roleId access.gatherFuel .linked

end StoreAccess

end RoleGrants
