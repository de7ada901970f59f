/-! # Whole numbers in text

Digits in a radix, and the decimal forms of bounded numbers: a sign that may be
absent, then one digit or more, and nothing else.  A number outside its bounds
is refused, never clamped. -/

set_option autoImplicit false

namespace RoleGrants.Text

def digitValue? (character : Char) : Option Nat :=
  let code := character.toNat
  if 48 ≤ code ∧ code ≤ 57 then some (code - 48)
  else if 97 ≤ code ∧ code ≤ 122 then some (code - 87)
  else if 65 ≤ code ∧ code ≤ 90 then some (code - 55)
  else none

def isDigit (character : Char) : Bool :=
  48 ≤ character.toNat && character.toNat ≤ 57

def digitsFrom (radix : Nat) (value : Nat) : List Char → Option Nat
  | [] => some value
  | character :: rest =>
      match digitValue? character with
      | some digit =>
          if digit < radix then digitsFrom radix (value * radix + digit) rest else none
      | none => none

def digits? (radix : Nat) (characters : List Char) : Option Nat :=
  if characters.isEmpty then none else digitsFrom radix 0 characters

def atMost? (limit : Nat) (number : Nat) : Option Nat :=
  if number ≤ limit then some number else none

/-- An unsigned number: `+` may stand in front, `-` may not. -/
def natural? (limit : Nat) (text : String) : Option Nat :=
  let characters := text.toList
  let body := if characters.head? = some '+' then characters.tail else characters
  (digits? 10 body).bind (atMost? limit)

def signed? (least greatest : Int) (text : String) : Option Int :=
  let value :=
    match text.toList with
    | '-' :: rest => (digits? 10 rest).map fun number => -(number : Int)
    | '+' :: rest => (digits? 10 rest).map fun number => (number : Int)
    | characters => (digits? 10 characters).map fun number => (number : Int)
  value.bind fun number =>
    if least ≤ number ∧ number ≤ greatest then some number else none

def largest32 : Nat := 4294967295

def largest64 : Nat := 18446744073709551615

end RoleGrants.Text
