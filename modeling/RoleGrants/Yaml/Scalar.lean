import RoleGrants.Text.Decimal
import RoleGrants.Yaml.Cursor

/-! # Scalars in YAML texts

A scalar is written plain, in single or double quotes, or as a block below its
indicator.  Where a plain or a quoted scalar goes over several lines, one break
is a blank and further breaks stay; a block keeps its breaks, or folds them in
the same way between lines that do not begin with a blank.

Every reader gives the text and the place behind it, or nothing where the text
is malformed. -/

set_option autoImplicit false

namespace RoleGrants.Yaml

structure Gap where
  blanks : List Char := []
  first : List Char := []
  more : List Char := []
  broken : Bool := false

namespace Gap

def folded (gap : Gap) : List Char :=
  if gap.first = ['\n'] then (if gap.more.isEmpty then [' '] else gap.more)
  else gap.first ++ gap.more

def text (gap : Gap) : List Char :=
  if gap.broken then gap.folded else gap.blanks

def addBreak (gap : Gap) (characters : List Char) : Gap :=
  if gap.broken then { gap with more := gap.more ++ characters }
  else { gap with blanks := [], first := characters, broken := true }

/-- Blanks and breaks; `refuses` tells where a tab may not stand. -/
def read (refuses : Gap → Cursor → Bool) : Nat → Gap → Cursor → Option (Gap × Cursor)
  | 0, gap, cursor => some (gap, cursor)
  | fuel + 1, gap, cursor =>
      match cursor.peek with
      | none => some (gap, cursor)
      | some character =>
          if isBlank character then
            if refuses gap cursor then none
            else if gap.broken then read refuses fuel gap cursor.skip
            else read refuses fuel { gap with blanks := gap.blanks ++ [character] } cursor.skip
          else if isBreak character then
            let (characters, after) := cursor.takeBreak
            read refuses fuel (gap.addBreak characters) after
          else some (gap, cursor)

end Gap

def isFlowMark (character : Char) : Bool :=
  character == ',' || character == '[' || character == ']' || character == Char.ofNat 0x7B ||
    character == Char.ofNat 0x7D

/-! ## Plain scalars -/

def plainWord (inFlow : Bool) : Nat → List Char → Cursor → Option (List Char × Cursor)
  | 0, read, cursor => some (read, cursor)
  | fuel + 1, read, cursor =>
      match cursor.peek with
      | none => some (read, cursor)
      | some character =>
          if isBlank character || isBreak character then some (read, cursor)
          else if inFlow && character == ':' &&
              cursor.hasAt 1 (fun next => isFlowMark next || next == '?') then none
          else if (character == ':' && cursor.blankOrEnd 1) || (inFlow && isFlowMark character) then
            some (read, cursor)
          else plainWord inFlow fuel (character :: read) cursor.skip

/-- The text of a plain scalar in reverse, and whether it ends behind a break. -/
def plainFrom (indent : Int) (inFlow : Bool) :
    Nat → List Char → Gap → Cursor → Option (List Char × Bool × Cursor)
  | 0, read, gap, cursor => some (read, gap.broken, cursor)
  | fuel + 1, read, gap, cursor =>
      if cursor.atDocumentMark || cursor.isAt '#' then some (read, gap.broken, cursor)
      else
        match plainWord inFlow (cursor.rest.length + 1) [] cursor with
        | none => none
        | some (word, after) =>
            let text := if word.isEmpty then read else word ++ gap.text.reverse ++ read
            let left := if word.isEmpty then gap else {}
            if !after.hasAt 0 (fun next => isBlank next || isBreak next) then
              some (text, left.broken, after)
            else
              let refuses := fun (gap : Gap) (place : Cursor) =>
                gap.broken && decide ((place.column : Int) < indent) && place.isAt '\t'
              match Gap.read refuses (after.rest.length + 1) left after with
              | none => none
              | some (next, start) =>
                  if !inFlow && decide ((start.column : Int) < indent) then
                    some (text, next.broken, start)
                  else plainFrom indent inFlow fuel text next start

def plainScalar (indent : Int) (inFlow : Bool) (cursor : Cursor) :
    Option (String × Bool × Cursor) :=
  (plainFrom indent inFlow (cursor.rest.length + 1) [] {} cursor).map
    fun (read, broken, after) => (String.ofList read.reverse, broken, after)

/-! ## Quoted scalars -/

def letterEscape? (character : Char) : Option Char :=
  match character with
  | '0' => some (Char.ofNat 0)
  | 'a' => some (Char.ofNat 7)
  | 'b' => some (Char.ofNat 8)
  | 't' | '\t' => some '\t'
  | 'n' => some '\n'
  | 'v' => some (Char.ofNat 11)
  | 'f' => some (Char.ofNat 12)
  | 'r' => some '\r'
  | 'e' => some (Char.ofNat 27)
  | ' ' => some ' '
  | '/' => some '/'
  | '\\' => some '\\'
  | 'N' => some (Char.ofNat 0x85)
  | '_' => some (Char.ofNat 0xA0)
  | 'L' => some (Char.ofNat 0x2028)
  | 'P' => some (Char.ofNat 0x2029)
  | other => if other = Char.ofNat 0x22 then some other else none

def codeLength? : Char → Option Nat
  | 'x' => some 2
  | 'u' => some 4
  | 'U' => some 8
  | _ => none

def escape? (cursor : Cursor) : Option (Char × Cursor) :=
  match cursor.peekAt 1 with
  | none => none
  | some letter =>
      match codeLength? letter with
      | none => (letterEscape? letter).map fun value => (value, cursor.skipMany 2)
      | some size =>
          let digits := (cursor.rest.drop 2).take size
          if digits.length ≠ size then none
          else
            match Text.digits? 16 digits with
            | none => none
            | some code =>
                if code.isValidChar then some (Char.ofNat code, cursor.skipMany (2 + size))
                else none

inductive WordEnd where
  | gap
  | escapedBreak

def quotedWord (quote : Char) : Nat → List Char → Cursor → Option (List Char × WordEnd × Cursor)
  | 0, read, cursor => some (read, .gap, cursor)
  | fuel + 1, read, cursor =>
      match cursor.peek with
      | none => some (read, .gap, cursor)
      | some character =>
          if isBlank character || isBreak character then some (read, .gap, cursor)
          else if quote == '\'' && character == '\'' && cursor.hasAt 1 (· == '\'') then
            quotedWord quote fuel ('\'' :: read) (cursor.skipMany 2)
          else if character == quote then some (read, .gap, cursor)
          else if quote != '\'' && character == '\\' then
            if cursor.hasAt 1 isBreak then some (read, .escapedBreak, cursor.skip.skipBreak)
            else
              match escape? cursor with
              | none => none
              | some (value, after) => quotedWord quote fuel (value :: read) after
          else quotedWord quote fuel (character :: read) cursor.skip

def quotedFrom (quote : Char) : Nat → List Char → Cursor → Option (List Char × Cursor)
  | 0, _, _ => none
  | fuel + 1, read, cursor =>
      if cursor.atDocumentMark || cursor.atEnd then none
      else
        match quotedWord quote (cursor.rest.length + 1) read cursor with
        | none => none
        | some (text, ending, after) =>
            if after.isAt quote then some (text, after.skip)
            else
              let begun : Gap := match ending with
                | .gap => {}
                | .escapedBreak => { broken := true }
              match Gap.read (fun _ _ => false) (after.rest.length + 1) begun after with
              | none => none
              | some (gap, start) => quotedFrom quote fuel (gap.text.reverse ++ text) start

def quotedScalar (quote : Char) (cursor : Cursor) : Option (String × Cursor) :=
  let start := cursor.skip
  (quotedFrom quote (start.rest.length + 2) [] start).map
    fun (read, after) => (String.ofList read.reverse, after)

/-! ## Block scalars -/

inductive Chomping where
  | strip
  | clip
  | keep
  deriving DecidableEq

def chomping? : Option Char → Option Chomping
  | some '+' => some .keep
  | some '-' => some .strip
  | _ => none

def indentDigit (cursor : Cursor) : Option (Nat × Cursor) :=
  match cursor.peek with
  | some character =>
      if Text.isDigit character then
        if character = '0' then none else some (character.toNat - 48, cursor.skip)
      else some (0, cursor)
  | none => some (0, cursor)

def blockHeader (cursor : Cursor) : Option (Chomping × Nat × Cursor) :=
  match chomping? cursor.peek with
  | some chomping => (indentDigit cursor.skip).map fun (digit, after) => (chomping, digit, after)
  | none =>
      match indentDigit cursor with
      | none => none
      | some (digit, after) =>
          match chomping? after.peek with
          | some chomping =>
              if digit = 0 then some (.clip, digit, after) else some (chomping, digit, after.skip)
          | none => some (.clip, digit, after)

/-- Empty lines: the breaks, the greatest column, and the place where a line holds something. -/
def blockBreaks (indent : Nat) : Nat → List Char → Nat → Cursor → Option (List Char × Nat × Cursor)
  | 0, _, _, _ => none
  | fuel + 1, breaks, greatest, cursor =>
      let isInside := fun (place : Cursor) => indent == 0 || place.column < indent
      let spaces := (cursor.rest.takeWhile (· == ' ')).length
      let start := cursor.skipMany
        (if indent = 0 then spaces else min spaces (indent - cursor.column))
      let column := max greatest start.column
      if isInside start && start.isAt '\t' then none
      else if start.hasAt 0 isBreak then
        let (characters, after) := start.takeBreak
        blockBreaks indent fuel (breaks ++ characters) column after
      else some (breaks, column, start)

structure BlockText where
  text : List Char := []
  first : List Char := []
  more : List Char := []
  afterBlank : Bool := false

def blockLines (literal : Bool) (indent : Nat) :
    Nat → BlockText → Cursor → Option (BlockText × Cursor)
  | 0, _, _ => none
  | fuel + 1, block, cursor =>
      if cursor.column = indent ∧ cursor.atEnd = false then
        let beginsBlank := cursor.hasAt 0 isBlank
        let joint :=
          if !literal && block.first == ['\n'] && !block.afterBlank && !beginsBlank then
            if block.more.isEmpty then [' '] else []
          else block.first
        let (line, lineEnd) := cursor.takeWhile fun character => !isBreak character
        let (characters, after) := lineEnd.takeBreak
        match blockBreaks indent (after.rest.length + 1) [] 0 after with
        | none => none
        | some (breaks, _, start) =>
            blockLines literal indent fuel
              { text := block.text ++ joint ++ block.more ++ line
                first := characters, more := breaks, afterBlank := beginsBlank } start
      else some (block, cursor)

def BlockText.ended (block : BlockText) : Chomping → List Char
  | .strip => block.text
  | .clip => block.text ++ block.first
  | .keep => block.text ++ block.first ++ block.more

def blockScalar (literal : Bool) (indent : Int) (cursor : Cursor) : Option (String × Cursor) :=
  match blockHeader cursor.skip with
  | none => none
  | some (chomping, digit, header) =>
      let blanks := header.skipWhile isBlank
      let remark :=
        if blanks.isAt '#' then blanks.skipWhile fun character => !isBreak character else blanks
      if !remark.breakOrEnd then none
      else
        let start := remark.skipBreak
        let given := if digit = 0 then 0 else if 0 ≤ indent then indent.toNat + digit else digit
        match blockBreaks given (start.rest.length + 1) [] 0 start with
        | none => none
        | some (breaks, greatest, first) =>
            let depth :=
              if given = 0 then max (max greatest (indent + 1).toNat) 1 else given
            match blockLines literal depth (first.rest.length + 1) { more := breaks } first with
            | none => none
            | some (block, after) => some (String.ofList (block.ended chomping), after)

end RoleGrants.Yaml
