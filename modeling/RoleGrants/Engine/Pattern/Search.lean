import RoleGrants.Engine.Pattern.Basic

/-! # Finding a pattern in a text

What is left of a pattern once a character has been read is again a pattern, or
one of several.  A search keeps all that is left of the matches begun so far,
and begins another at every character; the pattern is found as soon as one of
them needs nothing more.  How many there can be depends on the pattern alone, so
a search goes through the text once. -/

set_option autoImplicit false

namespace RoleGrants.Pattern

def needsNothing (before behind : Option Char) : Pattern → Bool
  | .empty => true
  | .one _ => false
  | .look place => place.isAt before behind
  | .group body => body.needsNothing before behind
  | .both first second =>
      first.needsNothing before behind && second.needsNothing before behind
  | .either left right =>
      left.needsNothing before behind || right.needsNothing before behind
  | .many body least _ => least == 0 || body.needsNothing before behind

def followedBy (first second : Pattern) : Pattern :=
  match first with
  | .empty => second
  | first => .both first second

/-- What can be left of a pattern once a character has been read.

A body that needs nothing here can be repeated without reading, as often as the
least number asks. -/
def leftovers (before : Option Char) (character : Char) : Pattern → List Pattern
  | .empty => []
  | .one set => if set.holds character then [.empty] else []
  | .look _ => []
  | .group body => body.leftovers before character
  | .both first second =>
      let within := (first.leftovers before character).map fun left => left.followedBy second
      if first.needsNothing before (some character) then within ++ second.leftovers before character
      else within
  | .either left right => left.leftovers before character ++ right.leftovers before character
  | .many body least most =>
      if most = some 0 then []
      else
        let owed := if body.needsNothing before (some character) then 0 else least - 1
        let again := Pattern.many body owed (most.map fun limit => limit - 1)
        (body.leftovers before character).map fun left => left.followedBy again

/-- One of the patterns is at its end here, or comes to it further on; another
match of the whole can begin behind every character. -/
def search (whole : Pattern) : Option Char → List Pattern → List Char → Bool
  | before, begun, [] => begun.any fun left => left.needsNothing before none
  | before, begun, character :: rest =>
      begun.any (fun left => left.needsNothing before (some character)) ||
        search whole (some character)
          (whole :: begun.flatMap fun left => left.leftovers before character).eraseDups rest

def isFound (pattern : Pattern) (text : String) : Bool :=
  search pattern none [pattern] text.toList

end RoleGrants.Pattern
