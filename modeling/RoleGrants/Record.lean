import RoleGrants.Document.Layout

/-! # Roles, menus and resources

A role is granted menus, a menu gives access to resources, and a resource is a
method together with a path.  Menus form trees: each names its parent, and
carries the ids of all of its ancestors in its path. -/

set_option autoImplicit false

namespace RoleGrants

inductive Status where
  | enabled
  | disabled
  deriving DecidableEq, Repr, Inhabited

namespace Status

def name : Status → String
  | .enabled => "enabled"
  | .disabled => "disabled"

def ofName? : String → Option Status
  | "enabled" => some .enabled
  | "disabled" => some .disabled
  | _ => none

theorem ofName?_name (status : Status) : ofName? status.name = some status := by
  cases status <;> rfl

def variants : List (String × Status) :=
  [("enabled", .enabled), ("disabled", .disabled)]

end Status

/-- A page gates a whole screen, a button one action on a page. -/
inductive MenuKind where
  | page
  | button
  deriving DecidableEq, Repr, Inhabited

namespace MenuKind

def name : MenuKind → String
  | .page => "page"
  | .button => "button"

def ofName? : String → Option MenuKind
  | "page" => some .page
  | "button" => some .button
  | _ => none

theorem ofName?_name (kind : MenuKind) : ofName? kind.name = some kind := by
  cases kind <;> rfl

def variants : List (String × MenuKind) :=
  [("page", .page), ("button", .button)]

end MenuKind

structure Role where
  id : String
  name : String := ""
  status : Status := .enabled
  deriving DecidableEq, Repr, Inhabited

structure Menu where
  id : String
  code : String := ""
  name : String := ""
  kind : MenuKind := .page
  parentId : String := ""
  parentPath : String := ""
  status : Status := .enabled
  deriving DecidableEq, Repr, Inhabited

structure MenuRef where
  id : String
  parentId : String
  parentPath : String
  deriving DecidableEq, Repr, Inhabited

def Menu.ref (menu : Menu) : MenuRef :=
  ⟨menu.id, menu.parentId, menu.parentPath⟩

structure Resource where
  id : String
  menuId : String
  method : String
  path : String
  deriving DecidableEq, Repr, Inhabited

/-- Resources with one key give access to the same requests. -/
def Resource.key (resource : Resource) : List String :=
  [resource.method, resource.path]

structure Link where
  roleId : String
  menuId : String
  deriving DecidableEq, Repr, Inhabited

/-! ## How records are written -/

def Role.layout : Layout Role where
  name := "Role"
  blank := { id := "" }
  slots :=
    [("id", .text fun value role => { role with id := value }),
     ("name", .text fun value role => { role with name := value }),
     ("status", .choice (Status.variants.map fun (name, value) =>
        (name, fun role => { role with status := value })))]
  required := ["id"]

def Menu.layout : Layout Menu where
  name := "Menu"
  blank := { id := "" }
  slots :=
    [("id", .text fun value menu => { menu with id := value }),
     ("code", .text fun value menu => { menu with code := value }),
     ("name", .text fun value menu => { menu with name := value }),
     ("kind", .choice (MenuKind.variants.map fun (name, value) =>
        (name, fun menu => { menu with kind := value }))),
     ("parent_id", .text fun value menu => { menu with parentId := value }),
     ("parent_path", .text fun value menu => { menu with parentPath := value }),
     ("status", .choice (Status.variants.map fun (name, value) =>
        (name, fun menu => { menu with status := value })))]
  required := ["id"]

def Resource.layout : Layout Resource where
  name := "MenuResource"
  blank := ⟨"", "", "", ""⟩
  slots :=
    [("id", .text fun value resource => { resource with id := value }),
     ("menu_id", .text fun value resource => { resource with menuId := value }),
     ("method", .text fun value resource => { resource with method := value }),
     ("path", .text fun value resource => { resource with path := value })]
  required := ["id", "menu_id", "method", "path"]

def Link.layout : Layout Link where
  name := "SeedLink"
  blank := ⟨"", ""⟩
  slots :=
    [("role_id", .text fun value link => { link with roleId := value }),
     ("menu_id", .text fun value link => { link with menuId := value })]
  required := ["role_id", "menu_id"]

def Role.document (role : Role) : Document :=
  .ofFields [("id", .text role.id), ("name", .text role.name), ("status", .text role.status.name)]

def Menu.document (menu : Menu) : Document :=
  .ofFields
    [("id", .text menu.id), ("code", .text menu.code), ("name", .text menu.name),
     ("kind", .text menu.kind.name), ("parent_id", .text menu.parentId),
     ("parent_path", .text menu.parentPath), ("status", .text menu.status.name)]

def MenuRef.document (ref : MenuRef) : Document :=
  .ofFields
    [("id", .text ref.id), ("parent_id", .text ref.parentId),
     ("parent_path", .text ref.parentPath)]

def Resource.document (resource : Resource) : Document :=
  .ofFields
    [("id", .text resource.id), ("menu_id", .text resource.menuId),
     ("method", .text resource.method), ("path", .text resource.path)]

end RoleGrants
