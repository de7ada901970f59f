/-! # Texts in bytes

Bytes are read as UTF-8, a character at a time.  A fault spans the bytes that
could have begun a character, one at least, and never the byte that rules it
out.  `decoded` puts one replacement character in the place of each fault;
`fault?` tells where the first one stands. -/

set_option autoImplicit false

namespace RoleGrants.Text.Utf8

/-- What is still to come of a character: so many bytes, and the bounds of the next. -/
structure Owed where
  count : Nat
  least : Nat
  greatest : Nat
  value : Nat

/-- The character that a byte begins; nothing when none begins with it. -/
def begun? (byte : Nat) : Option Owed :=
  if byte ≤ 0x7F then some ⟨0, 0x80, 0xBF, byte⟩
  else if 0xC2 ≤ byte ∧ byte ≤ 0xDF then some ⟨1, 0x80, 0xBF, byte - 0xC0⟩
  else if 0xE0 ≤ byte ∧ byte ≤ 0xEF then
    let least := if byte = 0xE0 then 0xA0 else 0x80
    let greatest := if byte = 0xED then 0x9F else 0xBF
    some ⟨2, least, greatest, byte - 0xE0⟩
  else if 0xF0 ≤ byte ∧ byte ≤ 0xF4 then
    let least := if byte = 0xF0 then 0x90 else 0x80
    let greatest := if byte = 0xF4 then 0x8F else 0xBF
    some ⟨3, least, greatest, byte - 0xF0⟩
  else none

inductive Reading where
  | character (value : Char) (size : Nat)
  | invalid (size : Nat)
  | incomplete
  deriving DecidableEq, Repr

def complete (size : Nat) (least greatest value : Nat) : Nat → List UInt8 → Reading
  | 0, _ => .character (Char.ofNat value) size
  | _ + 1, [] => .incomplete
  | count + 1, byte :: rest =>
      if least ≤ byte.toNat ∧ byte.toNat ≤ greatest then
        complete (size + 1) 0x80 0xBF (value * 0x40 + (byte.toNat - 0x80)) count rest
      else .invalid size

def read : List UInt8 → Reading
  | [] => .incomplete
  | byte :: rest =>
      match begun? byte.toNat with
      | none => .invalid 1
      | some owed => complete 1 owed.least owed.greatest owed.value owed.count rest

def replacement : Char := Char.ofNat 0xFFFD

def characters : Nat → List UInt8 → List Char
  | 0, _ => []
  | _, [] => []
  | fuel + 1, bytes =>
      match read bytes with
      | .character value size => value :: characters fuel (bytes.drop size)
      | .invalid size => replacement :: characters fuel (bytes.drop size)
      | .incomplete => [replacement]

def decoded (bytes : List UInt8) : String :=
  String.ofList (characters bytes.length bytes)

/-- The first fault from an index on: where it stands, and its size unless the text ends in it. -/
def faultFrom : Nat → Nat → List UInt8 → Option (Nat × Option Nat)
  | 0, _, _ => none
  | _, _, [] => none
  | fuel + 1, index, bytes =>
      match read bytes with
      | .character _ size => faultFrom fuel (index + size) (bytes.drop size)
      | .invalid size => some (index, some size)
      | .incomplete => some (index, none)

def fault? (bytes : List UInt8) : Option (Nat × Option Nat) :=
  faultFrom bytes.length 0 bytes

def faultText : Nat × Option Nat → String
  | (index, some size) =>
      "invalid utf-8 sequence of " ++ toString size ++ " bytes from index " ++ toString index
  | (index, none) => "incomplete utf-8 byte sequence from index " ++ toString index

def encoded (character : Char) : List UInt8 :=
  (String.singleton character).toUTF8.toList

end RoleGrants.Text.Utf8
