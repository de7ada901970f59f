import RoleGrants.Engine.Pattern.Repetition
import RoleGrants.Engine.Pattern.SetReading
import RoleGrants.Engine.Pattern.Size

/-! # The written form of patterns

`read?` reads a pattern and refuses a text that is none: an open group or set, a
repetition of nothing, or parts that are nested too deep.  `parse?` refuses also
what takes too much room when it is compiled. -/

set_option autoImplicit false

namespace RoleGrants.Pattern

/-- A part of a row; letters that switch a mode take a place in it and cannot be repeated. -/
structure Piece where
  nested : Nested Pattern
  isRepeatable : Bool

def ofCharacter (mode : Mode) (character : Char) : Pattern :=
  .one (mode.cased (.single character))

def ofEscape (mode : Mode) : Escape → Pattern
  | .character value => ofCharacter mode value
  | .set value => .one value
  | .look value => .look value

/-- Pieces one behind another; they are given in reverse order. -/
def row (pieces : List Piece) : Nested Pattern :=
  ⟨pieces.reverse.foldr (fun piece rest => .both piece.nested.part rest) .empty,
    Nested.rowDepth (pieces.map Piece.nested)⟩

def anyOf (last : Pattern) : List (Nested Pattern) → Pattern
  | [] => last
  | branch :: before => anyOf (.either branch.part last) before

structure OpenGroup where
  branches : List (Nested Pattern)
  pieces : List Piece
  modeBehind : Mode

/-- What has been read of a pattern: branches, pieces and groups stand in reverse order. -/
structure Progress where
  mode : Mode
  names : List (List Char)
  branches : List (Nested Pattern)
  pieces : List Piece
  around : List OpenGroup

namespace Progress

def fresh : Progress :=
  ⟨.plain, [], [], [], []⟩

def add (progress : Progress) (pattern : Pattern) : Progress :=
  { progress with pieces := ⟨.leaf pattern, true⟩ :: progress.pieces }

def addNested (progress : Progress) (nested : Nested Pattern) : Progress :=
  { progress with pieces := ⟨nested, true⟩ :: progress.pieces }

def switch (progress : Progress) (mode : Mode) : Progress :=
  { progress with mode := mode, pieces := ⟨.leaf .empty, false⟩ :: progress.pieces }

def nextBranch (progress : Progress) : Progress :=
  { progress with branches := row progress.pieces :: progress.branches, pieces := [] }

def alternatives (progress : Progress) : Nested Pattern :=
  let last := row progress.pieces
  ⟨anyOf last.part progress.branches, Nested.rowDepth (last :: progress.branches)⟩

def repeated? (progress : Progress) (repetition : Repetition) : Option Progress :=
  match progress.pieces with
  | [] => none
  | piece :: before =>
      if piece.isRepeatable then
        some { progress with
          pieces :=
            ⟨⟨.many piece.nested.part repetition.least repetition.most, piece.nested.depth + 1⟩,
              true⟩ :: before }
      else none

def openGroup (progress : Progress) : Progress :=
  { progress with
    branches := []
    pieces := []
    around := ⟨progress.branches, progress.pieces, progress.mode⟩ :: progress.around }

/-- A mode that was switched within a group does not hold behind it. -/
def closeGroup? (progress : Progress) : Option Progress :=
  match progress.around with
  | [] => none
  | opened :: others =>
      let inner := progress.alternatives
      some
        { progress with
          mode := opened.modeBehind
          branches := opened.branches
          pieces := ⟨⟨.group inner.part, inner.depth + 1⟩, true⟩ :: opened.pieces
          around := others }

/-- The first character of a name is a letter or a low line. -/
def isName : List Char → Bool
  | [] => false
  | first :: rest =>
      (Text.isLetter first || first == '_') &&
        rest.all fun character =>
          Text.isLetterOrNumber character || ['_', '.', '[', ']'].contains character

/-- A group with a name, which no other group has. -/
def openNamed? (progress : Progress) (characters : List Char) : Option (Progress × List Char) :=
  let name := characters.takeWhile (· != '>')
  match characters.dropWhile (· != '>') with
  | [] => none
  | _ :: rest =>
      if isName name ∧ !progress.names.contains name then
        some ({ progress.openGroup with names := name :: progress.names }, rest)
      else none

def openParenthesis? (progress : Progress) (characters : List Char) :
    Option (Progress × List Char) :=
  match progress.mode.skip characters with
  | '?' :: 'P' :: '<' :: rest => progress.openNamed? rest
  | '?' :: '<' :: rest => progress.openNamed? rest
  | '?' :: rest =>
      (progress.mode.readLetters true [] rest).map fun (mode, tail) => (progress.switch mode, tail)
  | rest => some (progress.openGroup, rest)

def single? (mode : Mode) (character : Char) : Option Pattern :=
  if character = '^' then some (.look mode.start)
  else if character = '$' then some (.look mode.finish)
  else if character = '.' then mode.point?.map Pattern.one
  else some (ofCharacter mode character)

/-- The next part of a pattern, which begins with `first` and is no repetition. -/
def part? (progress : Progress) (first : Char) (rest : List Char) :
    Option (Progress × List Char) :=
  if first = '(' then progress.openParenthesis? rest
  else if first = ')' then progress.closeGroup?.map fun next => (next, rest)
  else if first = '|' then some (progress.nextBranch, rest)
  else if first = '[' then
    (set? progress.mode rest).map fun (set, tail) =>
      (progress.addNested ⟨.one set.part, set.depth⟩, tail)
  else if first = '\\' then
    (Escape.read? progress.mode rest).map fun (escape, tail) =>
      (progress.add (ofEscape progress.mode escape), tail)
  else (single? progress.mode first).map fun pattern => (progress.add pattern, rest)

def step? (progress : Progress) (first : Char) (rest : List Char) :
    Option (Progress × List Char) :=
  if first = Char.ofNat 0x7B then
    match Repetition.ofCounts? progress.mode rest with
    | none => none
    | some (repetition, tail) => (progress.repeated? repetition).map fun next => (next, tail)
  else
    match Repetition.ofSign? first with
    | none => progress.part? first rest
    | some repetition =>
        (progress.repeated? repetition).map fun next => (next, Repetition.skipPreference rest)

def read? : Nat → Progress → List Char → Option (Nested Pattern)
  | 0, _, _ => none
  | fuel + 1, progress, characters =>
      match progress.mode.skip characters with
      | [] => if progress.around.isEmpty then some progress.alternatives else none
      | first :: rest =>
          match progress.step? first rest with
          | some (next, tail) => read? fuel next tail
          | none => none

end Progress

def greatestDepth : Nat := 250

def read? (characters : List Char) : Option Pattern :=
  match Progress.read? (characters.length + 1) .fresh characters with
  | none => none
  | some whole => if whole.depth ≤ greatestDepth then some whole.part else none

def parse? (characters : List Char) : Option Pattern :=
  (read? characters).filter fits

end RoleGrants.Pattern
