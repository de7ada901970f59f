import RoleGrants.Text.Decimal
import RoleGrants.Text.Split

/-! # Addresses of listeners

A host and a port.  A host of four bytes is written in decimal with dots, one
of eight words in hexadecimal between square brackets, where two colons stand
for a run of zero words, the last two words may be written as four bytes, and a
zone may follow a percent sign.  An address is written back in one form only:
the first of the longest runs of two zero words or more is left out. -/

set_option autoImplicit false

namespace RoleGrants

inductive Host where
  | bytes (first second third fourth : UInt8)
  | words (groups : List UInt16) (zone : UInt32)
  deriving DecidableEq, Repr

structure Address where
  host : Host
  port : UInt16
  deriving DecidableEq, Repr

namespace Address

def isRadixDigit (radix : Nat) (character : Char) : Bool :=
  match Text.digitValue? character with
  | some digit => digit < radix
  | none => false

def readNumber (radix limit : Nat) (fits : List Char → Bool) (characters : List Char) :
    Option (Nat × List Char) :=
  let digits := characters.takeWhile (isRadixDigit radix)
  if fits digits then
    ((Text.digits? radix digits).bind (Text.atMost? limit)).map fun number =>
      (number, characters.dropWhile (isRadixDigit radix))
  else none

/-- Three decimal digits at most, and no zero in front of another digit. -/
def fitsByte (digits : List Char) : Bool :=
  digits.length ≤ 3 && (digits.length ≤ 1 || digits.head? != some '0')

def readByte (characters : List Char) : Option (UInt8 × List Char) :=
  (readNumber 10 255 fitsByte characters).map fun (number, rest) => (number.toUInt8, rest)

def readWord (characters : List Char) : Option (UInt16 × List Char) :=
  (readNumber 16 65535 (fun digits => digits.length ≤ 4) characters).map
    fun (number, rest) => (number.toUInt16, rest)

def readMark (mark : Char) : List Char → Option (List Char)
  | [] => none
  | character :: rest => if character = mark then some rest else none

def readFourBytes (characters : List Char) :
    Option ((UInt8 × UInt8 × UInt8 × UInt8) × List Char) := do
  let (first, rest) ← readByte characters
  let rest ← readMark '.' rest
  let (second, rest) ← readByte rest
  let rest ← readMark '.' rest
  let (third, rest) ← readByte rest
  let rest ← readMark '.' rest
  let (fourth, rest) ← readByte rest
  return ((first, second, third, fourth), rest)

def wordOfBytes (high low : UInt8) : UInt16 :=
  high.toUInt16 * 256 + low.toUInt16

structure WordRun where
  groups : List UInt16
  endsInBytes : Bool
  rest : List Char

/-- As many words with colons between them as there are, but no more than `room`. -/
def readWords (isFirst : Bool) : Nat → List Char → WordRun
  | 0, characters => ⟨[], false, characters⟩
  | room + 1, characters =>
      match if isFirst then some characters else readMark ':' characters with
      | none => ⟨[], false, characters⟩
      | some start =>
          match if 0 < room then readFourBytes start else none with
          | some ((first, second, third, fourth), rest) =>
              ⟨[wordOfBytes first second, wordOfBytes third fourth], true, rest⟩
          | none =>
              match readWord start with
              | none => ⟨[], false, characters⟩
              | some (word, rest) =>
                  let more := readWords false room rest
                  { more with groups := word :: more.groups }

def readEightWords (characters : List Char) : Option (List UInt16 × List Char) :=
  let head := readWords true 8 characters
  if head.groups.length = 8 then some (head.groups, head.rest)
  else if head.endsInBytes then none
  else do
    let rest ← readMark ':' head.rest
    let rest ← readMark ':' rest
    let tail := readWords true (7 - head.groups.length) rest
    let missing := 8 - head.groups.length - tail.groups.length
    return (head.groups ++ List.replicate missing 0 ++ tail.groups, tail.rest)

/-- The zone behind a percent sign; without one it is zero. -/
def readZone (characters : List Char) : UInt32 × List Char :=
  let zone := do
    let rest ← readMark '%' characters
    readNumber 10 Text.largest32 (fun _ => true) rest
  match zone with
  | some (number, rest) => (number.toUInt32, rest)
  | none => (0, characters)

def readPort (characters : List Char) : Option (UInt16 × List Char) := do
  let rest ← readMark ':' characters
  let (number, rest) ← readNumber 10 65535 (fun _ => true) rest
  return (number.toUInt16, rest)

def readHost (characters : List Char) : Option (Host × List Char) :=
  match readFourBytes characters with
  | some ((first, second, third, fourth), rest) => some (.bytes first second third fourth, rest)
  | none => do
      let rest ← readMark '[' characters
      let (groups, rest) ← readEightWords rest
      let (zone, rest) := readZone rest
      let rest ← readMark ']' rest
      return (.words groups zone, rest)

def ofText? (text : String) : Option Address := do
  let (host, rest) ← readHost text.toList
  let (port, rest) ← readPort rest
  if rest.isEmpty then some ⟨host, port⟩ else none

/-! ## Writing -/

def bytesText (first second third fourth : UInt8) : String :=
  Text.joinWith "." ([first, second, third, fourth].map fun byte => toString byte.toNat)

def wordsText (groups : List UInt16) : String :=
  Text.joinWith ":" (groups.map fun word => String.ofList (Nat.toDigits 16 word.toNat))

def zeroRun (groups : List UInt16) : Nat :=
  (groups.takeWhile fun word => word == 0).length

/-- Where the first of the longest runs of zero words begins, and its length. -/
def longestZeroRun : List UInt16 → Nat × Nat
  | [] => (0, 0)
  | word :: rest =>
      let here := zeroRun (word :: rest)
      let (start, length) := longestZeroRun rest
      if length ≤ here then (0, here) else (start + 1, length)

def groupsText (groups : List UInt16) : String :=
  match groups with
  | [0, 0, 0, 0, 0, 65535, high, low] =>
      "::ffff:" ++ bytesText (high >>> 8).toUInt8 high.toUInt8 (low >>> 8).toUInt8 low.toUInt8
  | _ =>
      let (start, length) := longestZeroRun groups
      if 2 ≤ length then
        wordsText (groups.take start) ++ "::" ++ wordsText (groups.drop (start + length))
      else wordsText groups

def hostText : Host → String
  | .bytes first second third fourth => bytesText first second third fourth
  | .words groups zone =>
      let zoneText := if zone = 0 then "" else "%" ++ toString zone.toNat
      "[" ++ groupsText groups ++ zoneText ++ "]"

def text (address : Address) : String :=
  hostText address.host ++ ":" ++ toString address.port.toNat

/-! ## This machine -/

def isUnspecified : Host → Bool
  | .bytes 0 0 0 0 => true
  | .bytes _ _ _ _ => false
  | .words groups _ => groups.all (· == 0)

def isLoopback : Host → Bool
  | .bytes 127 _ _ _ => true
  | .bytes _ _ _ _ => false
  | .words groups _ => groups == [0, 0, 0, 0, 0, 0, 0, 1]

def isLocal (address : Address) : Bool :=
  isUnspecified address.host || isLoopback address.host

end Address

end RoleGrants
