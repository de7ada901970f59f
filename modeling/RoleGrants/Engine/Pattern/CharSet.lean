import RoleGrants.Text.Blank
import RoleGrants.Text.Folding
import RoleGrants.Text.WordPart

/-! # Sets of characters

A set is put together from ranges and from the digits, blanks and word
characters of an alphabet; `holds` says which characters are in it. -/

set_option autoImplicit false

namespace RoleGrants

inductive Alphabet where
  | ascii
  | unicode
  deriving DecidableEq, Repr

namespace Alphabet

def isDigit : Alphabet → Char → Bool
  | .ascii, character => '0' ≤ character && character ≤ '9'
  | .unicode, character => Text.isDecimal character

def isBlank : Alphabet → Char → Bool
  | .ascii, character => character.toNat < 128 && Text.isBlank character
  | .unicode, character => Text.isBlank character

def isWordPart : Alphabet → Char → Bool
  | .ascii, character => Text.isAsciiWordPart character
  | .unicode, character => Text.isWordPart character

/-- The characters that differ by case alone from one character. -/
def sameLetter : Alphabet → Char → List Char
  | .ascii, character => Text.sameAsciiLetter character
  | .unicode, character => Text.sameLetter character

end Alphabet

inductive CharSet where
  | nothing
  | range (first last : Char)
  | digit (alphabet : Alphabet)
  | blank (alphabet : Alphabet)
  | wordPart (alphabet : Alphabet)
  | either (left right : CharSet)
  | both (left right : CharSet)
  | without (left right : CharSet)
  | apart (left right : CharSet)
  | allBut (inner : CharSet)
  | anyCase (alphabet : Alphabet) (inner : CharSet)
  deriving DecidableEq, Repr

namespace CharSet

def holds (character : Char) : CharSet → Bool
  | .nothing => false
  | .range first last => first.toNat ≤ character.toNat && character.toNat ≤ last.toNat
  | .digit alphabet => alphabet.isDigit character
  | .blank alphabet => alphabet.isBlank character
  | .wordPart alphabet => alphabet.isWordPart character
  | .either left right => left.holds character || right.holds character
  | .both left right => left.holds character && right.holds character
  | .without left right => left.holds character && !right.holds character
  | .apart left right => left.holds character != right.holds character
  | .allBut inner => !inner.holds character
  | .anyCase alphabet inner =>
      inner.holds character || (alphabet.sameLetter character).any fun other => inner.holds other

def single (character : Char) : CharSet :=
  .range character character

theorem holds_single_iff (character other : Char) :
    (single other).holds character = true ↔ character = other := by
  constructor
  · intro held
    simp only [single, holds, Bool.and_eq_true, decide_eq_true_eq] at held
    exact Char.ext (UInt32.toNat_inj.mp (Nat.le_antisymm held.2 held.1))
  · rintro rfl
    simp [single, holds]

end CharSet

end RoleGrants
