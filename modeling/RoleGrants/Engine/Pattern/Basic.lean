import RoleGrants.Engine.Pattern.CharSet

/-! # Patterns of characters

Single characters, looks at the place between two of them, groups, alternatives
and repetitions. -/

set_option autoImplicit false

namespace RoleGrants

/-- What ends a line: a line feed alone, or also a carriage return, the two together as one. -/
inductive LineEnd where
  | feed
  | feedOrReturn
  deriving DecidableEq, Repr

inductive Look where
  | textStart
  | textFinish
  | lineStart (ending : LineEnd)
  | lineFinish (ending : LineEnd)
  | wordEdge (alphabet : Alphabet)
  | noWordEdge (alphabet : Alphabet)
  | wordStart (alphabet : Alphabet)
  | wordFinish (alphabet : Alphabet)
  | noWordBefore (alphabet : Alphabet)
  | noWordBehind (alphabet : Alphabet)
  deriving DecidableEq, Repr

namespace Look

def isWordPart (alphabet : Alphabet) (side : Option Char) : Bool :=
  side.any alphabet.isWordPart

/-- A place between a carriage return and a line feed is inside the end of a line. -/
def isAt (before behind : Option Char) : Look → Bool
  | .textStart => before == none
  | .textFinish => behind == none
  | .lineStart .feed => before == none || before == some '\n'
  | .lineStart .feedOrReturn =>
      before == none || before == some '\n' || (before == some '\r' && behind != some '\n')
  | .lineFinish .feed => behind == none || behind == some '\n'
  | .lineFinish .feedOrReturn =>
      behind == none || behind == some '\r' || (behind == some '\n' && before != some '\r')
  | .wordEdge alphabet => isWordPart alphabet before != isWordPart alphabet behind
  | .noWordEdge alphabet => isWordPart alphabet before == isWordPart alphabet behind
  | .wordStart alphabet => !isWordPart alphabet before && isWordPart alphabet behind
  | .wordFinish alphabet => isWordPart alphabet before && !isWordPart alphabet behind
  | .noWordBefore alphabet => !isWordPart alphabet before
  | .noWordBehind alphabet => !isWordPart alphabet behind

end Look

inductive Pattern where
  | empty
  | one (set : CharSet)
  | look (place : Look)
  | group (body : Pattern)
  | both (first second : Pattern)
  | either (left right : Pattern)
  | many (body : Pattern) (least : Nat) (most : Option Nat)
  deriving DecidableEq, Repr

end RoleGrants
