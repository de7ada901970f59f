import RoleGrants.Record
import RoleGrants.Text.Split

/-! # Paths in the menu tree

A menu's path holds the ids of its ancestors, the root first, each followed by
a dot.  A root has the empty path. -/

set_option autoImplicit false

namespace RoleGrants

/-- The ids that a path names; empty pieces name none. -/
def ancestorIds (path : String) : List String :=
  (Text.pieces '.' path).filter fun piece => piece != ""

/-- The path that every child of a menu carries. -/
def Menu.childPath (menu : Menu) : String :=
  menu.parentPath ++ menu.id ++ "."

end RoleGrants
