import RoleGrants.Engine.Pattern.Mode
import RoleGrants.Text.Decimal

/-! # Escapes in patterns

What stands behind a backslash: a character, a set of characters, or a look at
the place.  Backslashes before letters and digits that have no meaning are
refused, and so are sets that reach beyond the alphabet of the mode. -/

set_option autoImplicit false

namespace RoleGrants.Pattern

inductive Escape where
  | character (value : Char)
  | set (value : CharSet)
  | look (value : Look)
  deriving DecidableEq, Repr

namespace Escape

def standsForItself (character : Char) : Bool :=
  character.toNat < 128 && !character.isAlphanum && character != '<' && character != '>'

def control? (letter : Char) : Option Char :=
  if letter = 'n' then some '\n'
  else if letter = 't' then some '\t'
  else if letter = 'r' then some '\r'
  else if letter = 'a' then some '\x07'
  else if letter = 'f' then some '\x0c'
  else if letter = 'v' then some '\x0b'
  else none

def set? (alphabet : Alphabet) (letter : Char) : Option CharSet :=
  let least? (set : CharSet) : Option CharSet :=
    if alphabet = .unicode then some (.allBut set) else none
  if letter = 'd' then some (.digit alphabet)
  else if letter = 's' then some (.blank alphabet)
  else if letter = 'w' then some (.wordPart alphabet)
  else if letter = 'D' then least? (.digit alphabet)
  else if letter = 'S' then least? (.blank alphabet)
  else if letter = 'W' then least? (.wordPart alphabet)
  else none

def look? (alphabet : Alphabet) (letter : Char) : Option Look :=
  if letter = 'A' then some .textStart
  else if letter = 'z' then some .textFinish
  else if letter = 'b' then some (.wordEdge alphabet)
  else if letter = 'B' then some (.noWordEdge alphabet)
  else if letter = '<' then some (.wordStart alphabet)
  else if letter = '>' then some (.wordFinish alphabet)
  else none

def namedLook? (alphabet : Alphabet) (name : List Char) : Option Look :=
  if name = "start".toList then some (.wordStart alphabet)
  else if name = "end".toList then some (.wordFinish alphabet)
  else if name = "start-half".toList then some (.noWordBefore alphabet)
  else if name = "end-half".toList then some (.noWordBehind alphabet)
  else none

/-- Letters and hyphens, without the blanks between them. -/
def takeName (mode : Mode) : Nat → List Char → List Char → List Char × List Char
  | fuel + 1, taken, letter :: rest =>
      if letter.isAlpha ∨ letter = '-' then
        takeName mode fuel (letter :: taken) (mode.skip rest)
      else (taken.reverse, letter :: rest)
  | _, taken, characters => (taken.reverse, characters)

/-- The edge of a word, which may be named more closely between braces.

Braces that begin with no letter hold the counts of a repetition and are left. -/
def wordEdge? (mode : Mode) (characters : List Char) : Option (Escape × List Char) :=
  match characters with
  | brace :: rest =>
      if brace = Char.ofNat 0x7B then
        match takeName mode rest.length [] (mode.skip rest) with
        | ([], []) => none
        | ([], _) => some (.look (.wordEdge mode.alphabet), characters)
        | (name, close :: behind) =>
            if close = Char.ofNat 0x7D then
              (namedLook? mode.alphabet name).map fun place => (.look place, behind)
            else none
        | (_, []) => none
      else some (.look (.wordEdge mode.alphabet), characters)
  | [] => some (.look (.wordEdge mode.alphabet), [])

def fixedDigits? (mode : Mode) : Nat → List Char → List Char → Option (List Char × List Char)
  | 0, taken, characters => some (taken.reverse, characters)
  | count + 1, taken, characters =>
      match mode.skip characters with
      | [] => none
      | digit :: rest => fixedDigits? mode count (digit :: taken) rest

def bracedDigits? (mode : Mode) : Nat → List Char → List Char → Option (List Char × List Char)
  | 0, _, _ => none
  | fuel + 1, taken, characters =>
      match mode.skip characters with
      | [] => none
      | digit :: rest =>
          if digit = Char.ofNat 0x7D then some (taken.reverse, rest)
          else bracedDigits? mode fuel (digit :: taken) rest

def digitCount? (letter : Char) : Option Nat :=
  if letter = 'x' then some 2
  else if letter = 'u' then some 4
  else if letter = 'U' then some 8
  else none

/-- A character by its code point; two digits name a byte, which has to be an ASCII character
unless all of Unicode may stand there. -/
def codePoint? (mode : Mode) (count : Nat) (characters : List Char) :
    Option (Escape × List Char) :=
  let begun := mode.skip characters
  let isBraced := begun.head? == some (Char.ofNat 0x7B)
  let read :=
    if isBraced then bracedDigits? mode (begun.length + 1) [] begun.tail
    else fixedDigits? mode count [] begun
  match read with
  | none => none
  | some (digits, rest) =>
      match Text.digits? 16 digits with
      | none => none
      | some code =>
          if !code.isValidChar then none
          else if mode.alphabet = .ascii ∧ count = 2 ∧ !isBraced ∧ 128 ≤ code then none
          else some (.character (Char.ofNat code), rest)

def read? (mode : Mode) : List Char → Option (Escape × List Char)
  | [] => none
  | letter :: rest =>
      if standsForItself letter then some (.character letter, rest)
      else if letter = 'b' then wordEdge? mode rest
      else
        match digitCount? letter with
        | some count => codePoint? mode count rest
        | none =>
            match control? letter, set? mode.alphabet letter, look? mode.alphabet letter with
            | some value, _, _ => some (.character value, rest)
            | none, some value, _ => some (.set value, rest)
            | none, none, some value => some (.look value, rest)
            | none, none, none => none

end Escape

end RoleGrants.Pattern
