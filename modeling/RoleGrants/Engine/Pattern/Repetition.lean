import RoleGrants.Engine.Pattern.Mode
import RoleGrants.Text.Decimal

/-! # Repetitions

A star, a plus, a question mark, or counts between braces say how often the
part before them is repeated. -/

set_option autoImplicit false

namespace RoleGrants.Pattern

structure Repetition where
  least : Nat
  most : Option Nat
  deriving DecidableEq, Repr

namespace Repetition

/-- A question mark behind a repetition changes which match is preferred, not whether one exists. -/
def skipPreference : List Char → List Char
  | '?' :: rest => rest
  | characters => characters

def ofSign? (sign : Char) : Option Repetition :=
  if sign = '*' then some ⟨0, none⟩
  else if sign = '+' then some ⟨1, none⟩
  else if sign = '?' then some ⟨0, some 1⟩
  else none

def takeDigits (mode : Mode) : Nat → List Char → List Char → List Char × List Char
  | fuel + 1, taken, digit :: rest =>
      if Text.isDigit digit then takeDigits mode fuel (digit :: taken) (mode.skip rest)
      else (taken.reverse, digit :: rest)
  | _, taken, characters => (taken.reverse, characters)

/-- A number of 32 bits, between blanks in every mode. -/
def count? (mode : Mode) (characters : List Char) : Option (Nat × List Char) :=
  let begun := characters.dropWhile Text.isBlank
  let (digits, rest) := takeDigits mode begun.length [] begun
  let number := (Text.digits? 10 digits).bind (Text.atMost? Text.largest32)
  number.map fun value => (value, mode.skip (rest.dropWhile Text.isBlank))

def behindBrace? (mode : Mode) : List Char → Option (List Char)
  | [] => none
  | brace :: rest =>
      if brace = Char.ofNat 0x7D then some (skipPreference (mode.skip rest)) else none

/-- The counts between braces, the first of which has been read. -/
def ofCounts? (mode : Mode) (characters : List Char) : Option (Repetition × List Char) :=
  match count? mode (mode.skip characters) with
  | none => none
  | some (least, ',' :: rest) =>
      let begun := mode.skip rest
      match behindBrace? mode begun with
      | some behind => some (⟨least, none⟩, behind)
      | none =>
          match count? mode begun with
          | none => none
          | some (most, tail) =>
              if least ≤ most then
                (behindBrace? mode tail).map fun behind => (⟨least, some most⟩, behind)
              else none
  | some (least, rest) =>
      (behindBrace? mode rest).map fun behind => (⟨least, some least⟩, behind)

end Repetition

end RoleGrants.Pattern
