import RoleGrants.Line
import RoleGrants.Sorted

/-! # Compiled policies

The lines of all roles in ascending order, each once, with counts of what went
into them: roles, resources, and lines left out because a policy file cannot
carry them. -/

set_option autoImplicit false

namespace RoleGrants

structure Holding where
  roleId : String
  resources : List Resource
  deriving DecidableEq, Repr, Inhabited

structure Compiled where
  lines : List Line := []
  roles : Nat := 0
  resources : Nat := 0
  rejected : Nat := 0
  deriving DecidableEq, Repr, Inhabited

namespace Compiled

def isEmpty (compiled : Compiled) : Bool :=
  compiled.lines.isEmpty

def render (compiled : Compiled) : String :=
  String.join (compiled.lines.map fun line => line.text ++ "\n")

def absorb (whole part : Compiled) : Compiled where
  lines := insertAll part.lines whole.lines
  roles := whole.roles + part.roles
  resources := whole.resources + part.resources
  rejected := whole.rejected + part.rejected

end Compiled

end RoleGrants
