import RoleGrants.Document
import RoleGrants.Text.Decimal
import RoleGrants.Text.Real.Shortest

/-! # Documents in JSON text

`read` takes one value from the front of a text and gives the rest back.  It
always answers: where the text stops being a value, the document says so, and
what stands before that place is kept.  Whole numbers of 64 bits are integers,
every other number is a binary floating point number.

`render` writes a document without blanks, in printable ASCII. -/

set_option autoImplicit false

namespace RoleGrants.Json

open RoleGrants.Text

def isSpace (character : Char) : Bool :=
  character == ' ' || character == '\n' || character == '\t' || character == '\r'

def skipSpace (characters : List Char) : List Char :=
  characters.dropWhile isSpace

def codeUnit? : List Char → Option (Nat × List Char)
  | first :: second :: third :: fourth :: rest =>
      (digits? 16 [first, second, third, fourth]).map fun unit => (unit, rest)
  | _ => none

def isHighHalf (unit : Nat) : Bool :=
  0xD800 ≤ unit && unit ≤ 0xDBFF

def isLowHalf (unit : Nat) : Bool :=
  0xDC00 ≤ unit && unit ≤ 0xDFFF

/-- What one escape stands for: a character, or half a pair that has no other half. -/
inductive Escaped where
  | character (value : Char)
  | half

def unicodeEscape? (characters : List Char) : Option (Escaped × List Char) :=
  match codeUnit? characters with
  | none => none
  | some (unit, rest) =>
      if isHighHalf unit then
        match rest with
        | '\\' :: 'u' :: after =>
            match codeUnit? after with
            | none => none
            | some (second, tail) =>
                if isLowHalf second then
                  some (.character (Char.ofNat
                    (0x10000 + (unit - 0xD800) * 0x400 + (second - 0xDC00))), tail)
                else some (.half, tail)
        | _ => some (.half, rest)
      else if isLowHalf unit then some (.half, rest)
      else some (.character (Char.ofNat unit), rest)

def escape? : List Char → Option (Escaped × List Char)
  | 'u' :: rest => unicodeEscape? rest
  | 'n' :: rest => some (.character '\n', rest)
  | 't' :: rest => some (.character '\t', rest)
  | 'r' :: rest => some (.character '\r', rest)
  | 'b' :: rest => some (.character (Char.ofNat 8), rest)
  | 'f' :: rest => some (.character (Char.ofNat 12), rest)
  | '/' :: rest => some (.character '/', rest)
  | '\\' :: rest => some (.character '\\', rest)
  | character :: rest =>
      if character = Char.ofNat 0x22 then some (.character character, rest) else none
  | [] => none

/--
The characters up to the closing quote, the last one first, and whether all of
them are characters.  Nothing when the text breaks.
-/
def quoted? : Nat → List Char → List Char → Bool → Option (List Char × Bool × List Char)
  | 0, _, _, _ => none
  | _, [], _, _ => none
  | fuel + 1, character :: rest, read, usable =>
      if character = Char.ofNat 0x22 then some (read, usable, rest)
      else if character = '\\' then
        match escape? rest with
        | some (.character value, tail) => quoted? fuel tail (value :: read) usable
        | some (.half, tail) => quoted? fuel tail read false
        | none => none
      else if character.toNat < 0x20 then none
      else quoted? fuel rest (character :: read) usable

def readText (characters : List Char) : Document × List Char :=
  match quoted? (characters.length + 1) characters [] true with
  | some (read, true, rest) => (.text (String.ofList read.reverse), rest)
  | some (_, false, rest) => (.unusable, rest)
  | none => (.broken, [])

def exponent? (characters : List Char) : Option (Int × List Char) :=
  let body := match characters with
    | '+' :: rest => rest
    | '-' :: rest => rest
    | _ => characters
  let negative := characters.head? = some '-'
  let digits := body.takeWhile isDigit
  (digits? 10 digits).map fun value =>
    (if negative then -(value : Int) else value, body.dropWhile isDigit)

/-- Digits taken while the number they make fits 64 bits, and how many are left over. -/
def gather (number : Nat) : List Char → Nat × Nat
  | [] => (number, 0)
  | digit :: rest =>
      let next := number * 10 + (digit.toNat - 48)
      if next ≤ largest64 then gather next rest else (number, rest.length + 1)

/-- A number written with a fraction or an exponent, or one too long for 64 bits. -/
def realOf (negative : Bool) (significand : Nat) (power : Int) : Document :=
  match Real.ofParts significand power with
  | some value => .real ((if negative then "-" else "") ++ value.text)
  | none => .unusable

def readExponent (negative : Bool) (significand : Nat) (power : Int) (rest : List Char) :
    Document × List Char :=
  match rest with
  | 'e' :: after | 'E' :: after =>
      match exponent? after with
      | some (exponent, tail) => (realOf negative significand (power + exponent), tail)
      | none => (.broken, [])
  | _ => (realOf negative significand power, rest)

/-- The digits behind the point: those that no longer fit count for nothing. -/
def readFraction (negative : Bool) (significand : Nat) (power : Int) (characters : List Char) :
    Document × List Char :=
  let places := characters.takeWhile isDigit
  let (whole, left) := gather significand places
  if places.isEmpty then (.broken, [])
  else
    readExponent negative whole (power - (places.length - left : Nat))
      (characters.dropWhile isDigit)

def wholeNumber (negative : Bool) (number : Nat) : Document :=
  if negative then
    if number = 0 then .real "-0.0"
    else if number ≤ 9223372036854775808 then .integer (-(number : Int))
    else realOf true number 0
  else .integer number

/-- A number without its sign: no zero stands in front of other digits.

Digits before the point that no longer fit raise the power of ten. -/
def readUnsigned (negative : Bool) (characters : List Char) : Document × List Char :=
  let whole := characters.takeWhile isDigit
  let rest := characters.dropWhile isDigit
  let (significand, left) := gather 0 whole
  if whole.isEmpty ∨ (whole.head? = some '0' ∧ 1 < whole.length) then (.broken, [])
  else
    match rest with
    | '.' :: after => readFraction negative significand left after
    | 'e' :: _ | 'E' :: _ => readExponent negative significand left rest
    | _ =>
        (if left = 0 then wholeNumber negative significand
          else realOf negative significand left, rest)

def readScalar : List Char → Document × List Char
  | 'n' :: 'u' :: 'l' :: 'l' :: rest => (.null, rest)
  | 't' :: 'r' :: 'u' :: 'e' :: rest => (.bool true, rest)
  | 'f' :: 'a' :: 'l' :: 's' :: 'e' :: rest => (.bool false, rest)
  | '-' :: rest => readUnsigned true rest
  | characters => readUnsigned false characters

mutual

def readValue : Nat → List Char → Document × List Char
  | 0, _ => (.broken, [])
  | fuel + 1, characters =>
      match skipSpace characters with
      | '[' :: rest =>
          match skipSpace rest with
          | ']' :: tail => (.list [] true, tail)
          | _ =>
              let (items, closed, tail) := readItems fuel rest
              (.list items closed, tail)
      | first :: rest =>
          if first = Char.ofNat 0x22 then readText rest
          else if first = Char.ofNat 0x7B then
            match skipSpace rest with
            | [] => (.fields [] false, [])
            | next :: tail =>
                if next = Char.ofNat 0x7D then (.fields [] true, tail)
                else
                  let (entries, closed, after) := readEntries fuel (next :: tail)
                  (.fields entries closed, after)
          else readScalar (first :: rest)
      | [] => (.broken, [])

def readItems : Nat → List Char → List Document × Bool × List Char
  | 0, _ => ([], false, [])
  | fuel + 1, characters =>
      match skipSpace characters with
      | ']' :: _ => ([], false, [])
      | start =>
          let (item, rest) := readValue fuel start
          match skipSpace rest with
          | ',' :: tail =>
              let (items, closed, after) := readItems fuel tail
              (item :: items, closed, after)
          | ']' :: tail => ([item], true, tail)
          | _ => ([item], false, [])

def readEntries : Nat → List Char → List (String × Document) × Bool × List Char
  | 0, _ => ([], false, [])
  | fuel + 1, characters =>
      match skipSpace characters with
      | [] => ([], false, [])
      | first :: rest =>
          if first = Char.ofNat 0x22 then
            match readText rest with
            | (.text key, tail) =>
                match skipSpace tail with
                | ':' :: start =>
                    let (value, after) := readValue fuel start
                    match skipSpace after with
                    | [] => ([(key, value)], false, [])
                    | next :: more =>
                        if next = ',' then
                          let (entries, closed, final) := readEntries fuel more
                          ((key, value) :: entries, closed, final)
                        else if next = Char.ofNat 0x7D then ([(key, value)], true, more)
                        else ([(key, value)], false, [])
                | _ => ([(key, .broken)], false, [])
            | _ => ([], false, [])
          else ([], false, [])

end

def read (text : String) : Document × Bool :=
  let characters := text.toList
  let (document, rest) := readValue (2 * characters.length + 2) characters
  (document, (skipSpace rest).isEmpty)

/-! ## Writing -/

def hexDigit (value : Nat) : Char :=
  (Nat.toDigits 16 value).getLastD '0'

def writeUnit (unit : Nat) : List Char :=
  ['\\', 'u', hexDigit (unit / 0x1000), hexDigit (unit / 0x100 % 16),
    hexDigit (unit / 0x10 % 16), hexDigit (unit % 16)]

def writeCharacter (character : Char) : List Char :=
  let code := character.toNat
  if code = 0x22 ∨ code = 0x5C then ['\\', character]
  else if 0x20 ≤ code ∧ code < 0x7F then [character]
  else if code < 0x10000 then writeUnit code
  else writeUnit (0xD800 + (code - 0x10000) / 0x400) ++
    writeUnit (0xDC00 + (code - 0x10000) % 0x400)

def writeText (text : String) : String :=
  "\"" ++ String.ofList (text.toList.flatMap writeCharacter) ++ "\""

mutual

def render : Document → String
  | .null | .unusable | .broken => "null"
  | .bool true => "true"
  | .bool false => "false"
  | .integer value => toString value
  | .real text => text
  | .text value => writeText value
  | .list items _ => "[" ++ renderItems items ++ "]"
  | .fields entries _ => "\x7b" ++ renderEntries entries ++ "\x7d"

def renderItems : List Document → String
  | [] => ""
  | [item] => render item
  | item :: next :: items => render item ++ "," ++ renderItems (next :: items)

def renderEntries : List (String × Document) → String
  | [] => ""
  | [(key, value)] => writeText key ++ ":" ++ render value
  | (key, value) :: next :: entries =>
      writeText key ++ ":" ++ render value ++ "," ++ renderEntries (next :: entries)

end

end RoleGrants.Json
