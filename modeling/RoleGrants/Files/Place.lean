/-! # Places in the tree of folders

A place is where a file or a folder is, whatever path leads there: `child` goes
down by one name, and `above` goes back up (`above_child`). -/

set_option autoImplicit false

namespace RoleGrants

/-- The names on the way down from the root folder with a slash before each; no name holds one. -/
structure Place where
  key : String
  deriving DecidableEq, Repr

namespace Place

def root : Place := ⟨""⟩

instance : Inhabited Place := ⟨root⟩

def child (place : Place) (name : String) : Place :=
  ⟨place.key ++ "/" ++ name⟩

/-- The folder that a place is in; the root folder is in itself. -/
def above (place : Place) : Place :=
  ⟨String.ofList (place.key.toList.reverse.dropWhile (· != '/')).tail.reverse⟩

theorem above_child (place : Place) (name : String) (plain : '/' ∉ name.toList) :
    (place.child name).above = place := by
  have kept : ∀ character ∈ name.toList.reverse, (character != '/') = true := by
    intro character member
    simp only [bne_iff_ne, ne_eq]
    rintro rfl
    exact plain (List.mem_reverse.mp member)
  simp [child, above, List.dropWhile_append_of_pos kept]

end Place

end RoleGrants
