import RoleGrants.Text.Decimal
import RoleGrants.Text.Utf8
import RoleGrants.Yaml.Cursor

/-! # Tags

A tag names the kind of a node: in full between angle brackets, short for one of
the kinds that every text knows behind two exclamation marks, or of the text's own
behind one.  Octets of the name may be escaped. -/

set_option autoImplicit false

namespace RoleGrants.Yaml

def isNamePart (character : Char) : Bool :=
  let code := character.toNat
  (48 ≤ code && code ≤ 57) || (65 ≤ code && code ≤ 90) || (97 ≤ code && code ≤ 122) ||
    character == '_' || character == '-'

namespace Tag

def known (kind : String) : String :=
  "tag:yaml.org,2002:" ++ kind

def isPart (character : Char) : Bool :=
  isNamePart character ||
    [';', '/', '?', ':', '@', '&', '=', '+', '$', '.', '%', '!', '~', '*', '\'', '(', ')'].contains
      character

def octets? : List Char → Option (List UInt8)
  | [] => some []
  | '%' :: high :: low :: rest =>
      match Text.digits? 16 [high, low] with
      | some octet => (octets? rest).map fun octets => UInt8.ofNat octet :: octets
      | none => none
  | character :: rest =>
      if character = '%' then none
      else (octets? rest).map fun octets => Text.Utf8.encoded character ++ octets

def unescaped? (characters : List Char) : Option String :=
  match octets? characters with
  | some (first :: rest) =>
      let octets := first :: rest
      if (Text.Utf8.fault? octets).isNone then some (Text.Utf8.decoded octets) else none
  | _ => none

/-- The name behind the exclamation mark that begins a tag; no text has handles of its own. -/
def read? (cursor : Cursor) : Option (String × Cursor) :=
  if cursor.isAt '<' then
    let (name, after) := cursor.skip.takeWhile fun character =>
      isPart character || character == ',' || character == '[' || character == ']'
    if after.isAt '>' then (unescaped? name).map fun name => (name, after.skip) else none
  else
    let (handle, behind) := cursor.takeWhile isNamePart
    if behind.isAt '!' then
      let (kind, after) := behind.skip.takeWhile isPart
      if handle.isEmpty then (unescaped? kind).map fun kind => (known kind, after) else none
    else
      let (name, after) := cursor.takeWhile isPart
      (unescaped? ('!' :: name)).map fun name => (name, after)

end Tag

end RoleGrants.Yaml
