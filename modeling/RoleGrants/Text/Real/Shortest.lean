import RoleGrants.Text.Real.Basic

/-! # Binary floating point numbers in decimal text

The shortest decimal that reads back as a number (`shortestDigits`), of two such
decimals the nearer one, and how it is written: with a point from the hundred
thousandth part of one up to sixteen places before the point, and with an
exponent elsewhere. -/

set_option autoImplicit false

namespace RoleGrants.Text.Real

/-- The value and the ends of the interval that rounds to it, over one denominator. -/
structure Interval where
  low : Nat
  middle : Nat
  high : Nat
  denominator : Nat
  closed : Bool

def Binary.interval (value : Binary) : Interval :=
  let quarter := if value.significand = Nat.pow 2 52 ∧ value.exponent > -1074 then 1 else 2
  let parts (number : Nat) : Nat :=
    if 0 ≤ value.exponent then number * Nat.pow 2 value.exponent.toNat else number
  { low := parts (4 * value.significand - quarter)
    middle := parts (4 * value.significand)
    high := parts (4 * value.significand + 2)
    denominator := 4 * Nat.pow 2 (-value.exponent).toNat
    closed := value.significand % 2 = 0 }

def Interval.holds (interval : Interval) (digits : Nat) (power : Int) : Bool :=
  let left := digits * interval.denominator * Nat.pow 10 power.toNat
  let scale := Nat.pow 10 (-power).toNat
  if interval.closed then interval.low * scale ≤ left && left ≤ interval.high * scale
  else interval.low * scale < left && left < interval.high * scale

/-- The neighbour of the value on the grid of `10 ^ power` that reads back and is nearest. -/
def Interval.onGrid (interval : Interval) (power : Int) : Option Nat :=
  let numerator := interval.middle * Nat.pow 10 (-power).toNat
  let denominator := interval.denominator * Nat.pow 10 power.toNat
  let near := roundQuotient numerator denominator
  let below := numerator / denominator
  if 0 < near && interval.holds near power then some near
  else if 0 < below && interval.holds below power then some below
  else if interval.holds (below + 1) power then some (below + 1)
  else none

/-- The coarsest grid with a hit, beginning with the given power and going down. -/
def Interval.coarsest (interval : Interval) : Nat → Int → Nat × Int
  | 0, power => (interval.middle / interval.denominator, power)
  | fuel + 1, power =>
      match interval.onGrid power with
      | some digits => (digits, power)
      | none => interval.coarsest fuel (power - 1)

def Binary.shortestDigits (value : Binary) : Nat × Int :=
  let interval := value.interval
  let size : Int :=
    (Nat.toDigits 10 (interval.middle / interval.denominator)).length
  interval.coarsest 800 (size + 1)

structure Decimal where
  digits : List Char
  point : Int

def zeros (count : Int) : List Char :=
  List.replicate count.toNat '0'

def Decimal.ofDigits (digits : Nat) (power : Int) : Decimal :=
  let written := Nat.toDigits 10 digits
  let kept := (written.reverse.dropWhile fun digit => digit == '0').reverse
  ⟨kept, written.length + power⟩

def Decimal.positional (decimal : Decimal) : List Char :=
  let size : Int := decimal.digits.length
  if decimal.point ≤ 0 then '0' :: '.' :: zeros (-decimal.point) ++ decimal.digits
  else if size ≤ decimal.point then decimal.digits ++ zeros (decimal.point - size) ++ ['.', '0']
  else decimal.digits.take decimal.point.toNat ++ '.' :: decimal.digits.drop decimal.point.toNat

def Decimal.scientific (decimal : Decimal) : List Char :=
  let exponent := decimal.point - 1
  let fraction := match decimal.digits.tail with
    | [] => []
    | rest => '.' :: rest
  decimal.digits.take 1 ++ fraction ++ 'e' :: (if exponent < 0 then '-' else '+') ::
    Nat.toDigits 10 exponent.natAbs

def Decimal.text (decimal : Decimal) : String :=
  String.ofList
    (if -5 < decimal.point ∧ decimal.point ≤ 16 then decimal.positional else decimal.scientific)

def Binary.text (value : Binary) : String :=
  if value.significand = 0 then "0.0"
  else
    let shortest := value.shortestDigits
    (Decimal.ofDigits shortest.1 shortest.2).text

end RoleGrants.Text.Real
