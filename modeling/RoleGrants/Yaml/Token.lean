import RoleGrants.Yaml.Scalar
import RoleGrants.Yaml.Tag

/-! # Tokens of YAML texts

Indentation opens and closes blocks, and brackets and braces hold flow
collections.  A scalar may turn out to be a key when a colon follows it on the
same line; the tokens that belong before it are then put in at its place. -/

set_option autoImplicit false

namespace RoleGrants.Yaml

inductive Style where
  | plain
  | literal
  | other
  deriving DecidableEq, Repr, Inhabited

inductive Token where
  | directive
  | documentStart
  | documentEnd
  | blockSequenceStart
  | blockMappingStart
  | blockEnd
  | flowSequenceStart
  | flowSequenceEnd
  | flowMappingStart
  | flowMappingEnd
  | blockEntry
  | flowEntry
  | key
  | value
  | alias (name : String)
  | anchor (name : String)
  | tag (name : String)
  | scalar (text : String) (style : Style)
  deriving DecidableEq, Repr, Inhabited

structure Candidate where
  token : Nat
  required : Bool
  index : Nat
  line : Nat
  column : Nat
  deriving Repr

structure Scanner where
  cursor : Cursor
  tokens : Array Token := #[]
  indent : Int := -1
  indents : List Int := []
  keyAllowed : Bool := true
  candidate : Option Candidate := none
  outer : List (Option Candidate) := []
  directives : Bool := false

namespace Scanner

def inFlow (scanner : Scanner) : Bool :=
  !scanner.outer.isEmpty

def emit (scanner : Scanner) (token : Token) : Scanner :=
  { scanner with tokens := scanner.tokens.push token }

def insertAt (scanner : Scanner) (place : Nat) (token : Token) : Scanner :=
  { scanner with tokens :=
      scanner.tokens.extract 0 place ++ #[token] ++
        scanner.tokens.extract place scanner.tokens.size }

def moveTo (scanner : Scanner) (cursor : Cursor) : Scanner :=
  { scanner with cursor := cursor }

def allowKey (scanner : Scanner) (allowed : Bool) : Scanner :=
  { scanner with keyAllowed := allowed }

/-! ## Candidates -/

/-- A key has to end on its line; one that must be a key and does not is an error. -/
def dropStale (candidate : Option Candidate) (cursor : Cursor) : Option (Option Candidate) :=
  match candidate with
  | none => some none
  | some key =>
      if key.line < cursor.line || key.index + 1024 < cursor.index then
        if key.required then none else some none
      else some (some key)

def dropAllStale (scanner : Scanner) : Option Scanner := do
  let candidate ← dropStale scanner.candidate scanner.cursor
  let outer ← scanner.outer.mapM fun key => dropStale key scanner.cursor
  some { scanner with candidate := candidate, outer := outer }

def removeCandidate (scanner : Scanner) : Option Scanner :=
  match scanner.candidate with
  | some key => if key.required then none else some { scanner with candidate := none }
  | none => some scanner

def saveCandidate (scanner : Scanner) : Option Scanner :=
  if scanner.keyAllowed then
    scanner.removeCandidate.map fun cleared =>
      let cursor := cleared.cursor
      let required := !cleared.inFlow && cleared.indent == (cursor.column : Int)
      let candidate : Candidate :=
        ⟨cleared.tokens.size, required, cursor.index, cursor.line, cursor.column⟩
      { cleared with candidate := some candidate }
  else some scanner

/-! ## Indentation -/

def openBlock (scanner : Scanner) (column place : Nat) (token : Token) : Scanner :=
  if scanner.inFlow then scanner
  else if scanner.indent < (column : Int) then
    ({ scanner with
      indents := scanner.indent :: scanner.indents
      indent := column } : Scanner).insertAt place token
  else scanner

def closeBlocks (column : Int) : List Int → Scanner → Scanner
  | [], scanner => scanner
  | outer :: rest, scanner =>
      if column < scanner.indent then
        let closed : Scanner := { scanner with indent := outer, indents := rest }
        closeBlocks column rest (closed.emit .blockEnd)
      else scanner

def unroll (scanner : Scanner) (column : Int) : Scanner :=
  if scanner.inFlow then scanner else closeBlocks column scanner.indents scanner

/-! ## Blanks and remarks -/

def skipMark (cursor : Cursor) : Cursor :=
  if cursor.column == 0 && cursor.hasAt 0 isByteOrderMark then cursor.skip else cursor

def toNextToken : Nat → Scanner → Scanner
  | 0, scanner => scanner
  | fuel + 1, scanner =>
      let isSkipped := fun (character : Char) =>
        character == ' ' || (character == '\t' && (scanner.inFlow || !scanner.keyAllowed))
      let blanks := (skipMark scanner.cursor).skipWhile isSkipped
      let start :=
        if blanks.isAt '#' then blanks.skipWhile fun character => !isBreak character else blanks
      if start.hasAt 0 isBreak then
        let next := scanner.moveTo start.skipBreak
        toNextToken fuel (if scanner.inFlow then next else next.allowKey true)
      else scanner.moveTo start

/-! ## Single tokens -/

def simple (scanner : Scanner) (count : Nat) (token : Token) : Scanner :=
  (scanner.moveTo (scanner.cursor.skipMany count)).emit token

def documentMark (scanner : Scanner) (token : Token) : Option Scanner :=
  (scanner.unroll (-1)).removeCandidate.map fun cleared =>
    (cleared.allowKey false).simple 3 token

def flowStart (scanner : Scanner) (token : Token) : Option Scanner :=
  scanner.saveCandidate.map fun saved =>
    (({ saved with outer := saved.candidate :: saved.outer, candidate := none } : Scanner).allowKey
      true).simple 1 token

def flowEnd (scanner : Scanner) (token : Token) : Option Scanner :=
  scanner.removeCandidate.map fun cleared =>
    let left : Scanner := match cleared.outer with
      | candidate :: outer => { cleared with candidate := candidate, outer := outer }
      | [] => cleared
    (left.allowKey false).simple 1 token

def flowEntry (scanner : Scanner) : Option Scanner :=
  scanner.removeCandidate.map fun cleared => (cleared.allowKey true).simple 1 .flowEntry

def blockEntry (scanner : Scanner) : Option Scanner :=
  if !scanner.inFlow && !scanner.keyAllowed then none
  else
    let opened := scanner.openBlock scanner.cursor.column scanner.tokens.size .blockSequenceStart
    opened.removeCandidate.map fun cleared => (cleared.allowKey true).simple 1 .blockEntry

def explicitKey (scanner : Scanner) : Option Scanner :=
  if !scanner.inFlow && !scanner.keyAllowed then none
  else
    let opened := scanner.openBlock scanner.cursor.column scanner.tokens.size .blockMappingStart
    opened.removeCandidate.map fun cleared => (cleared.allowKey !cleared.inFlow).simple 1 .key

/-- The key token goes before the candidate, and the start of its block before that. -/
def value (scanner : Scanner) : Option Scanner :=
  match scanner.candidate with
  | some key =>
      let keyed := scanner.insertAt key.token .key
      let opened := keyed.openBlock key.column key.token .blockMappingStart
      some ((({ opened with candidate := none } : Scanner).allowKey false).simple 1 .value)
  | none =>
      if scanner.inFlow then some ((scanner.allowKey false).simple 1 .value)
      else if scanner.keyAllowed then
        let opened := scanner.openBlock scanner.cursor.column scanner.tokens.size .blockMappingStart
        some ((opened.allowKey true).simple 1 .value)
      else none

def endsName (cursor : Cursor) : Bool :=
  cursor.blankOrEnd 0 ||
    cursor.hasAt 0 fun character => isFlowMark character && character != '[' &&
      character != Char.ofNat 0x7B || character == '?' || character == ':' || character == '%' ||
      character == '@' || character == Char.ofNat 0x60

def named (scanner : Scanner) (token : String → Token) : Option Scanner :=
  match scanner.saveCandidate with
  | none => none
  | some saved =>
      let (name, after) := saved.cursor.skip.takeWhile isNamePart
      if name.isEmpty || !endsName after then none
      else some (((saved.allowKey false).moveTo after).emit (token (String.ofList name)))

def tag (scanner : Scanner) : Option Scanner :=
  match scanner.saveCandidate with
  | none => none
  | some saved =>
      match Tag.read? saved.cursor.skip with
      | none => none
      | some (name, place) =>
          if place.blankOrEnd 0 || (saved.inFlow && place.isAt ',') then
            some (((saved.allowKey false).moveTo place).emit (.tag name))
          else none

def blockScalarToken (scanner : Scanner) (literal : Bool) : Option Scanner :=
  match scanner.removeCandidate with
  | none => none
  | some cleared =>
      (blockScalar literal cleared.indent cleared.cursor).map fun (text, after) =>
        ((cleared.allowKey true).moveTo after).emit
          (.scalar text (if literal then .literal else .other))

def quotedToken (scanner : Scanner) (quote : Char) : Option Scanner :=
  match scanner.saveCandidate with
  | none => none
  | some saved =>
      (quotedScalar quote saved.cursor).map fun (text, after) =>
        ((saved.allowKey false).moveTo after).emit (.scalar text .other)

def plainToken (scanner : Scanner) : Option Scanner :=
  match scanner.saveCandidate with
  | none => none
  | some saved =>
      (plainScalar (saved.indent + 1) saved.inFlow saved.cursor).map fun (text, broken, after) =>
        ((saved.allowKey broken).moveTo after).emit (.scalar text .plain)

/-- The one directive that is known names the version 1.1 or 1.2. -/
def directive (scanner : Scanner) : Option Scanner :=
  match (scanner.unroll (-1)).removeCandidate with
  | none => none
  | some cleared =>
      let (name, behind) := cleared.cursor.skip.takeWhile isNamePart
      let (version, after) := (behind.skipWhile isBlank).takeWhile fun character =>
        Text.isDigit character || character == '.'
      let blanks := after.skipWhile isBlank
      let remark :=
        if blanks.isAt '#' then blanks.skipWhile fun character => !isBreak character else blanks
      if name == "YAML".toList && (version == "1.1".toList || version == "1.2".toList) &&
          remark.breakOrEnd && !cleared.directives then
        let noted : Scanner := { cleared with directives := true, keyAllowed := false }
        some ((noted.moveTo remark.skipBreak).emit .directive)
      else none

def isIndicator (character : Char) : Bool :=
  isFlowMark character ||
    ['-', '?', ':', '#', '&', '*', '!', '|', '>', '\'', Char.ofNat 0x22, '%', '@',
      Char.ofNat 0x60].contains character

def startsPlain (scanner : Scanner) (character : Char) : Bool :=
  !(isIndicator character || isBlank character) ||
    (character == '-' && !scanner.cursor.hasAt 1 isBlank) ||
    (!scanner.inFlow && (character == '?' || character == ':') && !scanner.cursor.blankOrEnd 1)

def fetch (scanner : Scanner) (character : Char) : Option Scanner :=
  let cursor := scanner.cursor
  if cursor.column == 0 && character == '%' then scanner.directive
  else if cursor.atMarks '-' then scanner.documentMark .documentStart
  else if cursor.atMarks '.' then scanner.documentMark .documentEnd
  else if character == '[' then scanner.flowStart .flowSequenceStart
  else if character == Char.ofNat 0x7B then scanner.flowStart .flowMappingStart
  else if character == ']' then scanner.flowEnd .flowSequenceEnd
  else if character == Char.ofNat 0x7D then scanner.flowEnd .flowMappingEnd
  else if character == ',' then scanner.flowEntry
  else if character == '-' && cursor.blankOrEnd 1 then scanner.blockEntry
  else if character == '?' && (scanner.inFlow || cursor.blankOrEnd 1) then scanner.explicitKey
  else if character == ':' && (scanner.inFlow || cursor.blankOrEnd 1) then scanner.value
  else if character == '*' then scanner.named .alias
  else if character == '&' then scanner.named .anchor
  else if character == '!' then scanner.tag
  else if character == '|' && !scanner.inFlow then scanner.blockScalarToken true
  else if character == '>' && !scanner.inFlow then scanner.blockScalarToken false
  else if character == '\'' || character == Char.ofNat 0x22 then scanner.quotedToken character
  else if scanner.startsPlain character then scanner.plainToken
  else none

def finish (scanner : Scanner) : Option (List Token) :=
  (scanner.unroll (-1)).removeCandidate.map fun ended => ended.tokens.toList

def scan : Nat → Scanner → Option (List Token)
  | 0, _ => none
  | fuel + 1, scanner =>
      let start := toNextToken (scanner.cursor.rest.length + 1) scanner
      match start.dropAllStale with
      | none => none
      | some fresh =>
          let level := fresh.unroll fresh.cursor.column
          match level.cursor.peek with
          | none => level.finish
          | some character =>
              match level.fetch character with
              | none => none
              | some next => scan fuel next

end Scanner

def tokens? (text : String) : Option (List Token) :=
  let characters := match text.toList with
    | first :: rest => if isByteOrderMark first then rest else first :: rest
    | [] => []
  if characters.all isAllowed then
    Scanner.scan (2 * characters.length + 2) { cursor := { rest := characters } }
  else none

end RoleGrants.Yaml
