import RoleGrants.Files.Tree
import RoleGrants.Store.Basic
import RoleGrants.Yaml.Reading

/-! # Seeds

Records that fill a store when the service starts: roles and menus first, as
they are written, then resources and links, which must name what is there.  A
record that is refused ends the filling; what came before it stays. -/

set_option autoImplicit false

namespace RoleGrants

structure Seed where
  roles : List Role := []
  menus : List Menu := []
  resources : List Resource := []
  links : List Link := []
  deriving DecidableEq, Repr, Inhabited

inductive SeedError where
  | unreadable (path : PathName) (cause : OsError)
  | unparsable
  deriving DecidableEq, Repr

namespace SeedError

def message : SeedError → String
  | .unreadable path _ => "read seed file " ++ path
  | .unparsable => "parse seed yaml"

def chain : SeedError → List String
  | .unreadable path cause => [(SeedError.unreadable path cause).message, cause.message]
  | .unparsable => [SeedError.unparsable.message]

end SeedError

namespace Seed

def listField {α : Type} (layout : Layout α) (put : List α → Seed → Seed) :
    Yaml.Node → Seed → Option Seed :=
  fun node seed => (node.listOf? (Yaml.readLayout layout)).map fun records => put records seed

def fields : Yaml.Fields Seed :=
  [("roles", listField Role.layout fun records seed => { seed with roles := records }),
   ("menus", listField Menu.layout fun records seed => { seed with menus := records }),
   ("resources", listField Resource.layout fun records seed => { seed with resources := records }),
   ("links", listField Link.layout fun records seed => { seed with links := records })]

def ofYaml (text : String) : Except SeedError Seed :=
  match (Yaml.Node.ofText? text).bind (Yaml.readFields fields [] {}) with
  | some seed => .ok seed
  | none => .error .unparsable

def ofFile (files : Files) (path : PathName) : Except SeedError Seed :=
  match files.readText path with
  | .ok text => ofYaml text
  | .error cause => .error (.unreadable path cause)

/-- Calls one after another until one is refused. -/
def applyAll {α : Type} (act : Store → α → Store × Except StoreError Unit) :
    Store → List α → Store × Except StoreError Unit
  | store, [] => (store, .ok ())
  | store, record :: records =>
      match act store record with
      | (after, .ok ()) => applyAll act after records
      | (after, .error error) => (after, .error error)

def apply (seed : Seed) (store : Store) : Store × Except StoreError Unit :=
  let withRoles := seed.roles.foldl Store.upsertRole store
  let withMenus := seed.menus.foldl Store.upsertMenu withRoles
  match applyAll Store.upsertResource withMenus seed.resources with
  | (after, .error error) => (after, .error error)
  | (after, .ok ()) =>
      applyAll (fun store link => store.linkRoleMenu link.roleId link.menuId) after seed.links

end Seed

end RoleGrants
