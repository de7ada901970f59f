/-! # Places in a YAML text

A cursor holds what is left of a text, with the line and the column of its
place.  The classes of characters are those of YAML: a break ends a line, and a
carriage return with a line feed behind it is one break. -/

set_option autoImplicit false

namespace RoleGrants.Yaml

def isBreak (character : Char) : Bool :=
  let code := character.toNat
  code == 0x0A || code == 0x0D || code == 0x85 || code == 0x2028 || code == 0x2029

def isBlank (character : Char) : Bool :=
  character == ' ' || character == '\t'

def isAllowed (character : Char) : Bool :=
  let code := character.toNat
  code == 0x09 || code == 0x0A || code == 0x0D || (0x20 ≤ code && code ≤ 0x7E) || code == 0x85 ||
    (0xA0 ≤ code && code ≤ 0xD7FF) || (0xE000 ≤ code && code ≤ 0xFFFD) ||
    (0x10000 ≤ code && code ≤ 0x10FFFF)

/-- The mark that may stand before the first character of a text, and of a line between tokens. -/
def isByteOrderMark (character : Char) : Bool :=
  character.toNat == 0xFEFF

structure Cursor where
  rest : List Char
  index : Nat := 0
  line : Nat := 0
  column : Nat := 0
  deriving Repr, Inhabited

namespace Cursor

def peek (cursor : Cursor) : Option Char :=
  cursor.rest.head?

def peekAt (cursor : Cursor) (offset : Nat) : Option Char :=
  cursor.rest[offset]?

def isAt (cursor : Cursor) (character : Char) : Bool :=
  cursor.peek == some character

def hasAt (cursor : Cursor) (offset : Nat) (test : Char → Bool) : Bool :=
  (cursor.peekAt offset).any test

def atEnd (cursor : Cursor) : Bool :=
  cursor.rest.isEmpty

def blankOrEnd (cursor : Cursor) (offset : Nat) : Bool :=
  match cursor.peekAt offset with
  | none => true
  | some character => isBlank character || isBreak character

def breakOrEnd (cursor : Cursor) : Bool :=
  match cursor.peek with
  | none => true
  | some character => isBreak character

def skip (cursor : Cursor) : Cursor :=
  { cursor with
    rest := cursor.rest.tail, index := cursor.index + 1, column := cursor.column + 1 }

def skipMany (count : Nat) (cursor : Cursor) : Cursor :=
  { cursor with
    rest := cursor.rest.drop count
    index := cursor.index + count
    column := cursor.column + count }

def takeBreak (cursor : Cursor) : List Char × Cursor :=
  let onto (count : Nat) (rest : List Char) : Cursor :=
    { rest := rest, index := cursor.index + count, line := cursor.line + 1, column := 0 }
  match cursor.rest with
  | '\r' :: '\n' :: rest => (['\n'], onto 2 rest)
  | character :: rest =>
      if character.toNat = 0x2028 ∨ character.toNat = 0x2029 then ([character], onto 1 rest)
      else if isBreak character then (['\n'], onto 1 rest)
      else ([], cursor)
  | [] => ([], cursor)

def skipBreak (cursor : Cursor) : Cursor :=
  cursor.takeBreak.2

def takeWhile (test : Char → Bool) (cursor : Cursor) : List Char × Cursor :=
  let taken := cursor.rest.takeWhile test
  (taken, cursor.skipMany taken.length)

def skipWhile (test : Char → Bool) (cursor : Cursor) : Cursor :=
  (cursor.takeWhile test).2

/-- Three equal marks at the beginning of a line, with nothing behind them. -/
def atMarks (cursor : Cursor) (mark : Char) : Bool :=
  cursor.column == 0 && cursor.rest.take 3 == [mark, mark, mark] && cursor.blankOrEnd 3

def atDocumentMark (cursor : Cursor) : Bool :=
  cursor.atMarks '-' || cursor.atMarks '.'

end Cursor

end RoleGrants.Yaml
