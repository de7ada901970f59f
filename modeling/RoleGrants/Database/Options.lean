import RoleGrants.Database.Error
import RoleGrants.Database.Url

/-! # Options of a connection

The user, the password and the path of an address are texts, and so is a host
that names a socket.  Among the parameters of its query only those that hold a
number or an address, or name a mode, can be wrong.

With good options the call still fails: no server answers, and no socket is
there. -/

set_option autoImplicit false

namespace RoleGrants.Database

/-- A name or a value of a query; `+` is a blank, and bytes that are no text are replaced. -/
def decoded (characters : List Char) : String :=
  let blanks := characters.map fun character => if character = '+' then ' ' else character
  Text.Utf8.decoded (Url.bytesOf blanks)

def parameter (characters : List Char) : String × String :=
  let isName := fun (character : Char) => character != '='
  (decoded (characters.takeWhile isName), decoded ((characters.dropWhile isName).drop 1))

def parameters (query : List Char) : List (String × String) :=
  ((Text.splitAt '&' query).filter fun piece => !piece.isEmpty).map parameter

def modes : List String :=
  ["disable", "allow", "prefer", "require", "verify-ca", "verify-full"]

def numberFault? (limit : Nat) (text : String) : Option String :=
  if text = "" then some "cannot parse integer from empty string"
  else
    match Text.natural? (Nat.pow 10 40) text with
    | some number => if number ≤ limit then none else some "number too large to fit in target type"
    | none => some "invalid digit found in string"

def isHostAddress (text : String) : Bool :=
  let isWhole {α : Type} (reading : Option (α × List Char)) : Bool :=
    match reading with
    | some (_, []) => true
    | _ => false
  isWhole (Address.readFourBytes text.toList) || isWhole (Address.readEightWords text.toList)

def parameterFault? (named : String × String) : Option DatabaseError :=
  let (name, value) := named
  if name = "sslmode" ∨ name = "ssl-mode" then
    if Text.lowerAscii value ∈ modes then none
    else some (.settings (.setting ("unknown value " ++ Text.quote value ++ " for `ssl_mode`")))
  else if name = "port" then (numberFault? 65535 value).map .setting
  else if name = "statement-cache-capacity" then (numberFault? Text.largest64 value).map .setting
  else if name = "hostaddr" then
    if isHostAddress value then none else some (.setting "invalid IP address syntax")
  else none

def startsWithSlash (characters : List Char) : Bool :=
  (Url.bytesOf characters).head? == some 47

def textFault? (characters : List Char) : Option DatabaseError :=
  (Text.Utf8.fault? (Url.bytesOf characters)).map fun fault =>
    .setting (Text.Utf8.faultText fault)

def fault? (url : Url) : Option DatabaseError :=
  let texts := (if startsWithSlash url.host then [url.host] else []) ++
    [url.user, url.password, url.path]
  match texts.findSome? textFault? with
  | some fault => some fault
  | none => (parameters url.query).findSome? parameterFault?

/-- Whether the server is looked for in the file system; the last host among the parameters counts,
and a socket once named stays. -/
def usesSocket (url : Url) : Bool :=
  startsWithSlash url.host ||
    (parameters url.query).any fun (name, value) => name == "host" && Text.startsWith value "/"

def connect (text : String) : DatabaseError :=
  match Url.ofText text with
  | .error fault => .setting fault.message
  | .ok url =>
      match fault? url with
      | some fault => fault
      | none => if usesSocket url then .communication .notFound else .unreachable

end RoleGrants.Database
