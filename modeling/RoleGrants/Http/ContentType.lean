import RoleGrants.Text.Split

/-! # Content types

A type, a slash and a subtype, and parameters behind a semicolon.  A body is
taken as JSON when its type is `application` and its subtype is `json`, or has
`json` behind or before its last plus sign.  Letters count alike in both cases.

Blanks are allowed before the name of a parameter and behind a value in quotes,
at the end, and nowhere else. -/

set_option autoImplicit false

namespace RoleGrants.ContentType

def tokenMarks : List Char :=
  ['!', '#', '$', '%', '&', '\'', '*', '+', '-', '.', '^', '_', Char.ofNat 0x60, '|', '~']

def isTokenPart (character : Char) : Bool :=
  let code := character.toNat
  (48 ≤ code && code ≤ 57) || (65 ≤ code && code ≤ 90) || (97 ≤ code && code ≤ 122) ||
    tokenMarks.contains character

def isQuote (character : Char) : Bool :=
  character.toNat == 0x22

def isQuotable (character : Char) : Bool :=
  32 ≤ character.toNat && character.toNat ≤ 126

def name? (characters : List Char) : Option (List Char × List Char) :=
  let name := characters.takeWhile isTokenPart
  if name.isEmpty then none else some (name, characters.dropWhile isTokenPart)

def afterQuoted? : List Char → Option (List Char)
  | [] => some []
  | ' ' :: rest => afterQuoted? rest
  | ';' :: rest => some rest
  | _ => none

/--
What follows the value of a parameter.  A quote at once behind the opening one
belongs to the value, so a value in quotes is never empty.
-/
def afterValue? (characters : List Char) : Option (List Char) :=
  match characters with
  | [] => some []
  | first :: rest =>
      if isQuote first then
        match rest with
        | [] => none
        | next :: more =>
            if isQuotable next then
              let inside := fun character => isQuotable character && !isQuote character
              match more.dropWhile inside with
              | quote :: behind => if isQuote quote then afterQuoted? behind else none
              | [] => none
            else none
      else
        match name? characters with
        | some (_, []) => some []
        | some (_, ';' :: behind) => some behind
        | _ => none

def areParameters : Nat → List Char → Bool
  | 0, _ => false
  | fuel + 1, characters =>
      match characters.dropWhile fun character => character == ' ' with
      | [] => true
      | start =>
          match name? start with
          | some (_, '=' :: value) =>
              match afterValue? value with
              | some rest => areParameters fuel rest
              | none => false
          | _ => false

/-- What stands before and behind the last plus sign, unless it stands at the front. -/
def suffixOf (subtype : List Char) : List Char × Option (List Char) :=
  match (subtype.reverse.dropWhile fun character => character != '+') with
  | _ :: before@(_ :: _) =>
      (before.reverse, some (subtype.reverse.takeWhile fun character => character != '+').reverse)
  | _ => (subtype, none)

def isJson (text : String) : Bool :=
  match name? (Text.lowerAscii text).toList with
  | some (kind, '/' :: rest) =>
      match name? rest with
      | some (subtype, behind) =>
          let (name, suffix) := suffixOf subtype
          let parametersHold := match behind with
            | [] => true
            | ';' :: parameters => areParameters (parameters.length + 1) parameters
            | _ => false
          parametersHold && kind == "application".toList &&
            (name == "json".toList || suffix == some "json".toList)
      | none => false
  | _ => false

end RoleGrants.ContentType
