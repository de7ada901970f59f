/-! # Ranges of characters

A property of characters as a list of the first and last code points that have it.
Ranges that ascend and do not touch are put together and taken from one another. -/

set_option autoImplicit false

namespace RoleGrants.Text

def isWithin (ranges : List (Nat × Nat)) (character : Char) : Bool :=
  ranges.any fun range => range.1 ≤ character.toNat && character.toNat ≤ range.2

/-- One range more, which is joined with those that it touches. -/
def insertRange (range : Nat × Nat) : List (Nat × Nat) → List (Nat × Nat)
  | [] => [range]
  | next :: rest =>
      if range.2 + 1 < next.1 then range :: next :: rest
      else if next.2 + 1 < range.1 then next :: insertRange range rest
      else insertRange (min range.1 next.1, max range.2 next.2) rest

def joinRanges (left right : List (Nat × Nat)) : List (Nat × Nat) :=
  left.foldr insertRange right

def gaps (start : Nat) : List (Nat × Nat) → List (Nat × Nat)
  | [] => if start ≤ 0x10FFFF then [(start, 0x10FFFF)] else []
  | range :: rest =>
      let later := gaps (range.2 + 1) rest
      if start < range.1 then (start, range.1 - 1) :: later else later

def withoutRanges (left right : List (Nat × Nat)) : List (Nat × Nat) :=
  gaps 0 (joinRanges (gaps 0 left) right)

end RoleGrants.Text
