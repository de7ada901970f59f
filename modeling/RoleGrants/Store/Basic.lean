import RoleGrants.MenuPath
import RoleGrants.Sorted
import RoleGrants.Store.Error
import RoleGrants.Table

/-! # The store in memory

Four tables: roles, menus, the menus linked to each role, and resources.  Each
table has a lock of its own; a call that touches several tables takes the locks
one after another, and what it does under one lock is one `section` here.  The
calls themselves are their sections in a row. -/

set_option autoImplicit false

namespace RoleGrants

structure Store where
  roles : Table Role := Table.empty
  menus : Table Menu := Table.empty
  links : Table (List String) := Table.empty
  resources : Table Resource := Table.empty
  deriving Inhabited

namespace Store

def empty : Store := {}

/-! ## Refusals -/

def noRole (id : String) : StoreError :=
  .notFound ("role " ++ id)

def noMenu (id : String) : StoreError :=
  .notFound ("menu " ++ id)

def menuTaken (id : String) : StoreError :=
  .conflict ("menu " ++ id)

def noResource (id : String) : StoreError :=
  .notFound ("resource " ++ id)

def noLink (roleId menuId : String) : StoreError :=
  .notFound ("link " ++ roleId ++ " -> " ++ menuId)

/-! ## Sections -/

def requireRole (store : Store) (roleId : String) : Except StoreError Unit :=
  if store.roles.contains roleId then .ok () else .error (noRole roleId)

def requireMenu (store : Store) (menuId : String) : Except StoreError Unit :=
  if store.menus.contains menuId then .ok () else .error (noMenu menuId)

def dropRole (store : Store) (roleId : String) : Store :=
  { store with roles := store.roles.erase roleId }

def dropRoleLinks (store : Store) (roleId : String) : Store :=
  { store with links := store.links.erase roleId }

def putLink (store : Store) (roleId menuId : String) : Store :=
  let linked := (store.links.get? roleId).getD []
  { store with links := store.links.insert roleId (insertNew menuId linked) }

def putResource (store : Store) (resource : Resource) : Store :=
  { store with resources := store.resources.insert resource.id resource }

/-- The menus that go with a menu: itself, and those whose path begins with the path below it. -/
def subtree (store : Store) (menuId : String) (menu : Menu) : List String :=
  ascending ((store.menus.values.filter fun candidate =>
    candidate.id == menuId || Text.startsWith candidate.parentPath menu.childPath).map Menu.id)

def dropMenus (store : Store) (doomed : List String) : Store :=
  { store with menus := store.menus.filter fun id _ => !doomed.contains id }

def dropMenuResources (store : Store) (doomed : List String) : Store :=
  { store with resources := store.resources.filter fun _ resource =>
      !doomed.contains resource.menuId }

def dropMenuLinks (store : Store) (doomed : List String) : Store :=
  { store with links := store.links.mapValues fun linked =>
      linked.filter fun id => !doomed.contains id }

/-! ## Calls -/

def upsertRole (store : Store) (role : Role) : Store :=
  { store with roles := store.roles.insert role.id role }

def setRoleStatus (store : Store) (roleId : String) (status : Status) :
    Store × Except StoreError Unit :=
  match store.roles.get? roleId with
  | none => (store, .error (noRole roleId))
  | some role =>
      ({ store with roles := store.roles.insert roleId { role with status := status } }, .ok ())

def deleteRole (store : Store) (roleId : String) : Store × Except StoreError Unit :=
  if store.roles.contains roleId then ((store.dropRole roleId).dropRoleLinks roleId, .ok ())
  else (store, .error (noRole roleId))

/-- The menu is kept as given; its path is not looked into. -/
def upsertMenu (store : Store) (menu : Menu) : Store :=
  { store with menus := store.menus.insert menu.id menu }

def childOf (parent menu : Menu) : Menu :=
  { menu with parentId := parent.id, parentPath := parent.childPath }

def insertChildMenu (store : Store) (parentId : String) (menu : Menu) :
    Store × Except StoreError Menu :=
  match store.menus.get? parentId with
  | none => (store, .error (noMenu parentId))
  | some parent =>
      if store.menus.contains menu.id then (store, .error (menuTaken menu.id))
      else
        let child := childOf parent menu
        (store.upsertMenu child, .ok child)

def setMenuStatus (store : Store) (menuId : String) (status : Status) :
    Store × Except StoreError Unit :=
  match store.menus.get? menuId with
  | none => (store, .error (noMenu menuId))
  | some menu =>
      ({ store with menus := store.menus.insert menuId { menu with status := status } }, .ok ())

def deleteMenu (store : Store) (menuId : String) : Store × Except StoreError Nat :=
  match store.menus.get? menuId with
  | none => (store, .error (noMenu menuId))
  | some menu =>
      let doomed := store.subtree menuId menu
      (((store.dropMenus doomed).dropMenuResources doomed).dropMenuLinks doomed,
        .ok doomed.length)

def linkRoleMenu (store : Store) (roleId menuId : String) : Store × Except StoreError Unit :=
  match store.requireRole roleId with
  | .error refusal => (store, .error refusal)
  | .ok () =>
      match store.requireMenu menuId with
      | .error refusal => (store, .error refusal)
      | .ok () => (store.putLink roleId menuId, .ok ())

def unlinkRoleMenu (store : Store) (roleId menuId : String) : Store × Except StoreError Unit :=
  match store.links.get? roleId with
  | none => (store, .error (noLink roleId menuId))
  | some linked =>
      if linked.contains menuId then
        let kept := linked.filter fun id => id != menuId
        ({ store with links := store.links.insert roleId kept }, .ok ())
      else (store, .error (noLink roleId menuId))

def upsertResource (store : Store) (resource : Resource) : Store × Except StoreError Unit :=
  match store.requireMenu resource.menuId with
  | .error refusal => (store, .error refusal)
  | .ok () => (store.putResource resource, .ok ())

def deleteResource (store : Store) (resourceId : String) : Store × Except StoreError Unit :=
  if store.resources.contains resourceId then
    ({ store with resources := store.resources.erase resourceId }, .ok ())
  else (store, .error (noResource resourceId))

/-! ## Queries -/

def enabledRoles (store : Store) : List Role :=
  sortBy Role.id (store.roles.values.filter fun role => role.status = .enabled)

/-- The enabled menus linked to a role, in the order of their ids. -/
def roleMenus (store : Store) (roleId : String) : List MenuRef :=
  let linked := (store.links.get? roleId).getD []
  ((linked.filterMap store.menus.get?).filter fun menu => menu.status = .enabled).map Menu.ref

/-- Menus by their ids, enabled or not, in the order asked for. -/
def menuRefs (store : Store) (ids : List String) : List MenuRef :=
  (ids.filterMap store.menus.get?).map Menu.ref

def menuResources (store : Store) (ids : List String) : List Resource :=
  sortBy Resource.id (store.resources.values.filter fun resource => ids.contains resource.menuId)

end Store

end RoleGrants
