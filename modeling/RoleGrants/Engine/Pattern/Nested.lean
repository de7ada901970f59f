/-! # How deep the parts of a pattern are nested

Every group, every repetition and every row of parts lies one level above what
it is made of; a single part makes no row. -/

set_option autoImplicit false

namespace RoleGrants.Pattern

structure Nested (Part : Type) where
  part : Part
  depth : Nat
  deriving DecidableEq, Repr

namespace Nested

variable {Part : Type}

def leaf (part : Part) : Nested Part :=
  ⟨part, 0⟩

def greatestDepth (parts : List (Nested Part)) : Nat :=
  parts.foldl (fun depth nested => max depth nested.depth) 0

/-- The depth of parts that stand side by side. -/
def rowDepth : List (Nested Part) → Nat
  | [] => 0
  | [nested] => nested.depth
  | parts => greatestDepth parts + 1

end Nested

end RoleGrants.Pattern
