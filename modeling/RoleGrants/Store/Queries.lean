import RoleGrants.Store.Basic

/-! # What a pass asks of a store

Four queries and a check of health.  A store in memory answers every one of
them; a store in a database that cannot be reached refuses all that need the
server.  `refusing` lays refusals over the answers of a store. -/

set_option autoImplicit false

namespace RoleGrants

inductive Query where
  | enabledRoles
  | roleMenus (roleId : String)
  | menus (ids : List String)
  | menuResources (ids : List String)
  | health
  deriving DecidableEq, Repr

structure Queries where
  enabledRoles : Except StoreError (List Role)
  roleMenus : String → Except StoreError (List MenuRef)
  menus : List String → Except StoreError (List MenuRef)
  menuResources : List String → Except StoreError (List Resource)
  health : Except StoreError Unit

namespace Queries

def ofStore (store : Store) : Queries where
  enabledRoles := .ok store.enabledRoles
  roleMenus := fun roleId => .ok (store.roleMenus roleId)
  menus := fun ids => .ok (store.menuRefs ids)
  menuResources := fun ids => .ok (store.menuResources ids)
  health := .ok ()

def serverless : StoreError :=
  .database .unreachable

/-- Nothing is asked of the server where no ids are given. -/
def ofDatabase : Queries where
  enabledRoles := .error serverless
  roleMenus := fun _ => .error serverless
  menus := fun ids => if ids.isEmpty then .ok [] else .error serverless
  menuResources := fun ids => if ids.isEmpty then .ok [] else .error serverless
  health := .error serverless

def orRefuse {α : Type} (refusal : Option StoreError) (answer : Except StoreError α) :
    Except StoreError α :=
  match refusal with
  | some error => .error error
  | none => answer

def refusing (refusal : Query → Option StoreError) (queries : Queries) : Queries where
  enabledRoles := orRefuse (refusal .enabledRoles) queries.enabledRoles
  roleMenus := fun roleId => orRefuse (refusal (.roleMenus roleId)) (queries.roleMenus roleId)
  menus := fun ids => orRefuse (refusal (.menus ids)) (queries.menus ids)
  menuResources := fun ids =>
    orRefuse (refusal (.menuResources ids)) (queries.menuResources ids)
  health := orRefuse (refusal .health) queries.health

end Queries

inductive Backend where
  | memory
  | postgres
  deriving DecidableEq, Repr, Inhabited

namespace Backend

def name : Backend → String
  | .memory => "memory"
  | .postgres => "postgres"

def isDurable : Backend → Bool
  | .memory => false
  | .postgres => true

end Backend

/-- A store as a pass sees it: the rows in memory, and whether they are the ones asked. -/
structure StoreAccess where
  memory : Store := Store.empty
  backend : Backend := .memory
  refusal : Query → Option StoreError := fun _ => none

namespace StoreAccess

def queries (access : StoreAccess) : Queries :=
  Queries.refusing access.refusal
    (match access.backend with
    | .memory => Queries.ofStore access.memory
    | .postgres => Queries.ofDatabase)

end StoreAccess

end RoleGrants
