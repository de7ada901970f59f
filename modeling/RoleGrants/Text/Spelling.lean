/-! # Characters spelled in bytes

Ranges of code points as the bytes that spell them.  A spelling has a range for
each byte, and every byte in it may stand with every other. -/

set_option autoImplicit false

namespace RoleGrants.Text

abbrev Spelling := List (Nat × Nat)

/-- Code points of as many bytes, with the mark of the first byte and the number of the others. -/
structure Band where
  least : Nat
  greatest : Nat
  mark : Nat
  others : Nat

/-- The surrogates are left out. -/
def bands : List Band :=
  [⟨0, 0x7F, 0, 0⟩, ⟨0x80, 0x7FF, 0xC0, 1⟩, ⟨0x800, 0xD7FF, 0xE0, 2⟩, ⟨0xE000, 0xFFFF, 0xE0, 2⟩,
    ⟨0x10000, 0x10FFFF, 0xF0, 3⟩]

def otherBytes (code : Nat) : Nat → List Nat
  | 0 => []
  | count + 1 => (0x80 + (code >>> (6 * count)) % 0x40) :: otherBytes code count

/-- Where a range has to be cut, because a byte in it does not vary freely. -/
def cut? (first last : Nat) : Option Nat :=
  [0x40, 0x1000, 0x40000].findSome? fun block =>
    if first / block = last / block then none
    else if first % block ≠ 0 then some ((first / block + 1) * block)
    else if last % block ≠ block - 1 then some (last / block * block)
    else none

/-- A range with all its cuts, of which one lies within another six times at most. -/
def freePieces : Nat → Nat → Nat → List (Nat × Nat)
  | 0, first, last => [(first, last)]
  | fuel + 1, first, last =>
      match cut? first last with
      | some place => freePieces fuel first (place - 1) ++ freePieces fuel place last
      | none => [(first, last)]

namespace Band

def bytes (band : Band) (code : Nat) : List Nat :=
  (band.mark + code >>> (6 * band.others)) :: otherBytes code band.others

def spellings (band : Band) (range : Nat × Nat) : List Spelling :=
  let first := max band.least range.1
  let last := min band.greatest range.2
  if last < first then []
  else
    (if band.others = 0 then [(first, last)] else freePieces 6 first last).map fun piece =>
      (band.bytes piece.1).zip (band.bytes piece.2)

end Band

def spellings (ranges : List (Nat × Nat)) : List Spelling :=
  ranges.flatMap fun range => bands.flatMap fun band => band.spellings range

end RoleGrants.Text
