import RoleGrants.Address
import RoleGrants.Text.Decimal
import RoleGrants.Text.Split
import RoleGrants.Text.Utf8

/-! # Addresses of databases

A scheme, a colon, and after two slashes a user, a host and a port, then a path
and a query.  An address without a scheme is relative to nothing, and a port is
a number of 16 bits.

Some schemes are special: any number of slashes, of either kind, may stand
behind their colon, and they need a host that is a domain.  The host of another
scheme is any text without the marks that divide an address, or empty. -/

set_option autoImplicit false

namespace RoleGrants

inductive UrlFault where
  | relative
  | emptyHost
  | domain
  | domainCharacter
  | fourBytes
  | eightWords
  | port
  deriving DecidableEq, Repr

def UrlFault.message : UrlFault → String
  | .relative => "relative URL without a base"
  | .emptyHost => "empty host"
  | .domain => "invalid international domain name"
  | .domainCharacter => "invalid domain character"
  | .fourBytes => "invalid IPv4 address"
  | .eightWords => "invalid IPv6 address"
  | .port => "invalid port number"

structure Url where
  user : List Char := []
  password : List Char := []
  host : List Char := []
  path : List Char := []
  query : List Char := []
  deriving DecidableEq, Repr

namespace Url

/-! ## Percent signs -/

/-- A percent sign with two hexadecimal digits is one byte. -/
def bytesOf : List Char → List UInt8
  | '%' :: high :: low :: rest =>
      match Text.digits? 16 [high, low] with
      | some value => value.toUInt8 :: bytesOf rest
      | none => 37 :: bytesOf (high :: low :: rest)
  | character :: rest => Text.Utf8.encoded character ++ bytesOf rest
  | [] => []

/-! ## Hosts -/

inductive Scheme where
  | special
  | file
  | other
  deriving DecidableEq, Repr

def Scheme.ofName (name : String) : Scheme :=
  if name ∈ ["http", "https", "ws", "wss", "ftp"] then .special
  else if name = "file" then .file
  else .other

def eightWordsFault? (characters : List Char) : Option UrlFault :=
  match Address.readEightWords characters with
  | some (_, []) => none
  | _ => some .eightWords

def isHostMark (character : Char) : Bool :=
  ['\x00', '\t', '\n', '\r', ' ', '#', '/', ':', '<', '>', '?', '@', '[', '\\', ']', '^',
    '|'].contains character

def isDomainMark (character : Char) : Bool :=
  let code := character.toNat
  isHostMark character || code ≤ 0x20 || code == 0x7F ||
    [0x25, 0x60, 0x7B, 0x7D].contains code

/-- The number of a piece between dots: hexadecimal behind `0x`, octal behind `0`. -/
def pieceNumber? (piece : List Char) : Option Nat :=
  match piece with
  | [] => none
  | '0' :: 'x' :: digits | '0' :: 'X' :: digits =>
      if digits.isEmpty then some 0 else Text.digits? 16 digits
  | '0' :: digit :: digits => Text.digits? 8 (digit :: digits)
  | digits => Text.digits? 10 digits

def dotPieces (domain : List Char) : List (List Char) :=
  let pieces := Text.splitAt '.' domain
  if 1 < pieces.length ∧ pieces.getLast? = some [] then pieces.dropLast else pieces

/-- A domain whose last piece is a number has to be an address of four bytes. -/
def endsInNumber (domain : List Char) : Bool :=
  match (dotPieces domain).getLast? with
  | some last => !last.isEmpty && (last.all Text.isDigit || (pieceNumber? last).isSome)
  | none => false

/-- The last number fills the bytes that are left. -/
def fourBytesFault? (domain : List Char) : Option UrlFault :=
  let pieces := dotPieces domain
  match pieces.mapM pieceNumber? with
  | none => some .fourBytes
  | some numbers =>
      let room := Nat.pow 256 (5 - numbers.length)
      if numbers.length ≤ 4 ∧ numbers.dropLast.all (· ≤ 255) ∧ numbers.getLastD 0 < room then none
      else some .fourBytes

def domainFault? (host : List Char) : Option UrlFault :=
  let bytes := bytesOf host
  let domain := (Text.Utf8.decoded bytes).toList
  if (Text.Utf8.fault? bytes).isSome || domain.any isDomainMark then some .domain
  else if domain.isEmpty then some .emptyHost
  else if endsInNumber domain then fourBytesFault? domain
  else none

/-- What is wrong with a host; between square brackets stand eight words. -/
def hostFault? (scheme : Scheme) (host : List Char) : Option UrlFault :=
  match host with
  | '[' :: inner =>
      if inner.getLast? = some ']' then eightWordsFault? inner.dropLast else some .eightWords
  | _ =>
      match scheme with
      | .other => if host.any isHostMark then some .domainCharacter else none
      | .special | .file => domainFault? host

/-! ## Reading -/

def isLetter (character : Char) : Bool :=
  let code := character.toNat
  (65 ≤ code && code ≤ 90) || (97 ≤ code && code ≤ 122)

def isSchemePart (character : Char) : Bool :=
  isLetter character || Text.isDigit character || character == '+' || character == '-' ||
    character == '.'

/-- Control characters and blanks at the two ends do not count, nor do line ends and tabs. -/
def normalized (text : String) : List Char :=
  let isEdge := fun (character : Char) => character.toNat ≤ 0x20
  let inner := ((text.toList.dropWhile isEdge).reverse.dropWhile isEdge).reverse
  inner.filter fun character => character != '\t' && character != '\n' && character != '\r'

def scheme? (characters : List Char) : Option (Scheme × List Char) :=
  match characters with
  | [] => none
  | first :: _ =>
      if isLetter first then
        match characters.dropWhile isSchemePart with
        | ':' :: rest =>
            let name := String.ofList (characters.takeWhile isSchemePart)
            some (.ofName (Text.lowerAscii name), rest)
        | _ => none
      else none

def endsAuthority (scheme : Scheme) (character : Char) : Bool :=
  character == '/' || character == '?' || character == '#' ||
    (scheme != .other && character == '\\')

/-- The path, without the slashes at its front, and the query of what follows the authority. -/
def withRest (url : Url) (rest : List Char) : Url :=
  let path := rest.takeWhile fun character => character != '?' && character != '#'
  let query := match rest.drop path.length with
    | '?' :: behind => behind.takeWhile fun character => character != '#'
    | _ => []
  { url with path := path.dropWhile (· == '/'), query := query }

def hostPart : Bool → List Char → List Char
  | _, [] => []
  | inBrackets, character :: rest =>
      if character = ':' ∧ ¬inBrackets then []
      else
        let within := character = '[' ∨ (character ≠ ']' ∧ inBrackets)
        character :: hostPart within rest

def portHolds (characters : List Char) : Bool :=
  let digits := characters.takeWhile Text.isDigit
  let rest := characters.dropWhile Text.isDigit
  let fits := match Text.digits? 10 digits with
    | some number => number ≤ 65535
    | none => true
  fits && (rest.isEmpty || rest.head? = some '\\')

/-- The user and the password before the last `@` of an authority, and what follows it. -/
def userPart (authority : List Char) : Option (List Char × List Char) × List Char :=
  match (Text.splitAt '@' authority).reverse with
  | place :: before@(_ :: _) =>
      let named := Text.join '@' before.reverse
      let isName := fun character => character != ':'
      (some (named.takeWhile isName, (named.dropWhile isName).drop 1), place)
  | _ => (none, authority)

def ofAuthority (scheme : Scheme) (authority rest : List Char) : Except UrlFault Url :=
  let (named, place) := userPart authority
  let (user, password) := named.getD ([], [])
  let host := hostPart false place
  let behind := place.drop host.length
  if scheme = .special ∧ host.isEmpty then .error .emptyHost
  else
    match hostFault? scheme host with
    | some fault => .error fault
    | none =>
        let isNamed := !user.isEmpty || !password.isEmpty || (named.isSome && !rest.isEmpty)
        if host.isEmpty ∧ (isNamed ∨ ¬behind.isEmpty) then .error .emptyHost
        else if portHolds (behind.drop 1) then
          let left := (behind.drop 1).dropWhile Text.isDigit
          .ok (withRest { user := user, password := password, host := host } (left ++ rest))
        else .error .port

/-- Two letters or marks that name a drive stand for no host. -/
def isDrive : List Char → Bool
  | [letter, mark] => isLetter letter && (mark == ':' || mark == '|')
  | _ => false

def ofFile (rest : List Char) : Except UrlFault Url :=
  let isSlash := fun (character : Char) => character == '/' || character == '\\'
  match rest with
  | first :: second :: start =>
      if isSlash first && isSlash second then
        let host := start.takeWhile fun character => !endsAuthority .file character
        if host.isEmpty || isDrive host then .ok (withRest {} start)
        else
          match hostFault? .file host with
          | some fault => .error fault
          | none => .ok (withRest {} (start.drop host.length))
      else .ok (withRest {} rest)
  | _ => .ok (withRest {} rest)

def ofText (text : String) : Except UrlFault Url :=
  let fromAuthority (scheme : Scheme) (start : List Char) : Except UrlFault Url :=
    let authority := start.takeWhile fun character => !endsAuthority scheme character
    ofAuthority scheme authority (start.drop authority.length)
  match scheme? (normalized text) with
  | none => .error .relative
  | some (.file, rest) => ofFile rest
  | some (.special, rest) =>
      fromAuthority .special (rest.dropWhile fun character => character == '/' || character == '\\')
  | some (.other, '/' :: '/' :: start) => fromAuthority .other start
  | some (.other, rest) => .ok (withRest {} rest)

end Url

end RoleGrants
