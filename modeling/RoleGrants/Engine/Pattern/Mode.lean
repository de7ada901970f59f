import RoleGrants.Engine.Pattern.Basic

/-! # Modes of reading a pattern

A pattern may switch modes on and off within itself, by letters behind the
opening of a group: `Mode.readLetters` reads them up to the closing parenthesis,
and a letter stands there once at most. -/

set_option autoImplicit false

namespace RoleGrants.Pattern

structure Mode where
  /-- Letters stand for themselves in either case. -/
  anyCase : Bool
  /-- The two anchors hold at every line. -/
  everyLine : Bool
  /-- The point stands for the end of a line, too. -/
  pointIsAll : Bool
  ending : LineEnd
  alphabet : Alphabet
  /-- Blanks and comments are not part of the pattern. -/
  isSpaced : Bool
  deriving DecidableEq, Repr

namespace Mode

def plain : Mode :=
  ⟨false, false, false, .feed, .unicode, false⟩

/-- A text behind the blanks and comments that it begins with; `inComment` up to the next line. -/
def behindBlanks : Bool → List Char → List Char
  | _, [] => []
  | true, character :: rest => behindBlanks (character != '\n') rest
  | false, character :: rest =>
      if Text.isBlank character then behindBlanks false rest
      else if character = '#' then behindBlanks true rest
      else character :: rest

def skip (mode : Mode) (characters : List Char) : List Char :=
  if mode.isSpaced then behindBlanks false characters else characters

theorem skip_of_not_isSpaced (mode : Mode) (characters : List Char)
    (plain : mode.isSpaced = false) : mode.skip characters = characters := by
  simp [skip, plain]

/-- The mode with the one of a letter switched on or off; preferring short matches changes none. -/
def switch? (mode : Mode) (isOn : Bool) (letter : Char) : Option Mode :=
  if letter = 'i' then some { mode with anyCase := isOn }
  else if letter = 'm' then some { mode with everyLine := isOn }
  else if letter = 's' then some { mode with pointIsAll := isOn }
  else if letter = 'R' then some { mode with ending := if isOn then .feedOrReturn else .feed }
  else if letter = 'u' then some { mode with alphabet := if isOn then .unicode else .ascii }
  else if letter = 'x' then some { mode with isSpaced := isOn }
  else if letter = 'U' then some mode
  else none

/-- Letters up to a closing parenthesis; those already read stand in reverse order.

Behind a hyphen modes are switched off, so a hyphen needs a letter behind it. -/
def readLetters (mode : Mode) : Bool → List Char → List Char → Option (Mode × List Char)
  | _, _, [] => none
  | isOn, seen, character :: rest =>
      if character = ')' then
        if seen.head? = none ∨ seen.head? = some '-' then none else some (mode, rest)
      else if seen.contains character then none
      else if character = '-' then readLetters mode false (character :: seen) rest
      else
        match mode.switch? isOn character with
        | some next => readLetters next isOn (character :: seen) rest
        | none => none

def cased (mode : Mode) (set : CharSet) : CharSet :=
  if mode.anyCase then .anyCase mode.alphabet set else set

def point? (mode : Mode) : Option CharSet :=
  if mode.alphabet = .ascii then none
  else if mode.pointIsAll then some (.allBut .nothing)
  else
    match mode.ending with
    | .feed => some (.allBut (.single '\n'))
    | .feedOrReturn => some (.allBut (.either (.single '\n') (.single '\r')))

def start (mode : Mode) : Look :=
  if mode.everyLine then .lineStart mode.ending else .textStart

def finish (mode : Mode) : Look :=
  if mode.everyLine then .lineFinish mode.ending else .textFinish

end Mode

end RoleGrants.Pattern
