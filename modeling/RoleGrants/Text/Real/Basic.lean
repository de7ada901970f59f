/-! # Binary floating point numbers

The number of 53 significant bits nearest to a quotient (`nearest`, a tie goes to
the even significand), products and quotients of such numbers, and the number
that a significand and a power of ten come to (`ofParts`).

`ofParts` rounds at every step: the significand first, the power of ten by
itself, and then their product or quotient.  It can differ in its last bit from
the number nearest to the written decimal. -/

set_option autoImplicit false

namespace RoleGrants.Text.Real

/-- A quotient rounded to the nearest whole number, a tie to the even one. -/
def roundQuotient (numerator denominator : Nat) : Nat :=
  let quotient := numerator / denominator
  let rest := 2 * (numerator % denominator)
  if rest < denominator then quotient
  else if denominator < rest then quotient + 1
  else if quotient % 2 = 0 then quotient else quotient + 1

structure Binary where
  significand : Nat
  exponent : Int
  deriving DecidableEq, Repr

def scaled (numerator denominator : Nat) (exponent : Int) : Nat × Nat :=
  if 0 ≤ exponent then (numerator, denominator * Nat.pow 2 exponent.toNat)
  else (numerator * Nat.pow 2 (-exponent).toNat, denominator)

/-- The exponent that leaves 53 bits, and -1074 at least. -/
def exponentFor (numerator denominator : Nat) : Int :=
  let guess : Int := (Nat.log2 numerator : Int) - (Nat.log2 denominator : Int) - 52
  let fits (exponent : Int) : Bool :=
    let parts := scaled numerator denominator exponent
    parts.1 < parts.2 * Nat.pow 2 53
  max (-1074) (if fits (guess - 1) then guess - 1 else if fits guess then guess else guess + 1)

/-- Nothing when the rounded value is beyond the largest finite one. -/
def nearest (numerator denominator : Nat) : Option Binary :=
  if numerator = 0 then some ⟨0, -1074⟩
  else
    let exponent := exponentFor numerator denominator
    let parts := scaled numerator denominator exponent
    let significand := roundQuotient parts.1 parts.2
    let value : Binary :=
      if significand = Nat.pow 2 53 then ⟨Nat.pow 2 52, exponent + 1⟩ else ⟨significand, exponent⟩
    if value.exponent > 971 then none else some value

namespace Binary

def zero : Binary := ⟨0, -1074⟩

def numerator (value : Binary) : Nat :=
  value.significand * Nat.pow 2 value.exponent.toNat

def denominator (value : Binary) : Nat :=
  Nat.pow 2 (-value.exponent).toNat

def times (left right : Binary) : Option Binary :=
  nearest (left.numerator * right.numerator) (left.denominator * right.denominator)

def dividedBy (left right : Binary) : Option Binary :=
  nearest (left.numerator * right.denominator) (left.denominator * right.numerator)

end Binary

def greatestPower : Nat := 308

def powerOfTen (power : Nat) : Option Binary :=
  nearest (Nat.pow 10 power) 1

/-- A number brought down by a power of ten, in steps that each stay below `greatestPower`. -/
def lowered : Nat → Binary → Nat → Option Binary
  | 0, _, _ => some .zero
  | steps + 1, value, power =>
      if power ≤ greatestPower then (powerOfTen power).bind value.dividedBy
      else
        ((powerOfTen greatestPower).bind value.dividedBy).bind fun less =>
          lowered steps less (power - greatestPower)

/--
The number for `significand * 10 ^ power`, where the significand has 64 bits at
most.  Nothing when it is too large; a number that has been brought down three
times is zero.
-/
def ofParts (significand : Nat) (power : Int) : Option Binary :=
  (nearest significand 1).bind fun value =>
    if significand = 0 then some .zero
    else if power < 0 then lowered 4 value (-power).toNat
    else if power.toNat ≤ greatestPower then (powerOfTen power.toNat).bind value.times
    else none

end RoleGrants.Text.Real
