import RoleGrants.Engine.Pattern.Reading
import RoleGrants.Engine.Pattern.Search

/-! # Patterns of routes

The object of a rule is a path in which `/*` stands for any rest and a colon
with a name for one piece between slashes.  Both are put into the terms of a
character pattern, and everything else in the object keeps the meaning that it
has there: nothing is escaped. -/

set_option autoImplicit false

namespace RoleGrants.RoutePattern

/-- Every star behind a slash gets a point before it. -/
def openStars : List Char → List Char
  | '/' :: '*' :: rest => '/' :: '.' :: '*' :: openStars rest
  | character :: rest => character :: openStars rest
  | [] => []

def onePiece : List Char :=
  ['[', '^', '/', ']', '+']

/-- Every name behind a colon becomes a piece; `inName` while the name lasts. -/
def openNames : Bool → List Char → List Char
  | _, [] => []
  | true, character :: rest =>
      if character = '/' then '/' :: openNames false rest else openNames true rest
  | false, character :: rest =>
      if character = ':' then onePiece ++ openNames true rest
      else character :: openNames false rest

def written (object : String) : List Char :=
  '^' :: openNames false (openStars object.toList) ++ ['$']

/-- The pattern that the object is the written form of, whether or not it can be compiled. -/
def reading? (object : String) : Option Pattern :=
  Pattern.read? (written object)

def pattern? (object : String) : Option Pattern :=
  Pattern.parse? (written object)

/-- Nothing when the object makes no pattern that can be compiled. -/
def admits? (object path : String) : Option Bool :=
  (pattern? object).map fun pattern => pattern.isFound path

end RoleGrants.RoutePattern
