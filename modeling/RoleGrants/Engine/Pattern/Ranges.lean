import RoleGrants.Engine.Pattern.CharSet

/-! # The ranges of a set -/

set_option autoImplicit false

namespace RoleGrants

open Text (joinRanges gaps withoutRanges)

namespace Alphabet

def cased : Alphabet → List (Nat × Nat)
  | .ascii => (List.range' 0x41 26).map fun code => (code, code + 32)
  | .unicode => Text.caseRuns.flatMap fun run =>
      (List.range' run.first ((run.last - run.first) / run.step + 1) run.step).map fun code =>
        (code, ((code : Int) + run.distance).toNat)

def otherCases (alphabet : Alphabet) (ranges : List (Nat × Nat)) : List Nat :=
  let has := fun (code : Nat) => ranges.any fun range => range.1 ≤ code && code ≤ range.2
  let touched := alphabet.cased.filter fun pair => has pair.1 || has pair.2
  touched.flatMap fun pair => (alphabet.sameLetter (Char.ofNat pair.1)).map Char.toNat

end Alphabet

/-- The code points of a set, in ranges that ascend and do not touch. -/
def CharSet.ranges : CharSet → List (Nat × Nat)
  | .nothing => []
  | .range first last => [(first.toNat, last.toNat)]
  | .digit .ascii => [(0x30, 0x39)]
  | .digit .unicode => joinRanges Text.decimalRanges []
  | .blank .ascii => [(0x09, 0x0D), (0x20, 0x20)]
  | .blank .unicode =>
      [(0x09, 0x0D), (0x20, 0x20), (0x85, 0x85), (0xA0, 0xA0), (0x1680, 0x1680),
        (0x2000, 0x200A), (0x2028, 0x2029), (0x202F, 0x202F), (0x205F, 0x205F),
        (0x3000, 0x3000)]
  | .wordPart .ascii => [(0x30, 0x39), (0x41, 0x5A), (0x5F, 0x5F), (0x61, 0x7A)]
  | .wordPart .unicode =>
      joinRanges Text.letterRanges (joinRanges Text.decimalRanges Text.joiningRanges)
  | .either left right => joinRanges left.ranges right.ranges
  | .both left right => gaps 0 (joinRanges (gaps 0 left.ranges) (gaps 0 right.ranges))
  | .without left right => withoutRanges left.ranges right.ranges
  | .apart left right =>
      joinRanges (withoutRanges left.ranges right.ranges)
        (withoutRanges right.ranges left.ranges)
  | .allBut inner => gaps 0 inner.ranges
  | .anyCase alphabet inner =>
      joinRanges ((alphabet.otherCases inner.ranges).map fun code => (code, code)) inner.ranges

end RoleGrants
