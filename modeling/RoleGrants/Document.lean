/-! # Documents

A value of a structured text as it was written: `list` and `fields` carry
whether the text closes them, and `broken` stands where a value is expected
that the text does not hold.  `unusable` is a token that is well formed and has
no value, such as a number beyond the largest one.

`held` gives the form in which a document is kept: the fields in the order of
their names, and of two fields with one name the later one. -/

set_option autoImplicit false

namespace RoleGrants

inductive Document where
  | null
  | bool (value : Bool)
  | integer (value : Int)
  | real (text : String)
  | text (value : String)
  | list (items : List Document) (closed : Bool)
  | fields (entries : List (String × Document)) (closed : Bool)
  | unusable
  | broken
  deriving Inhabited, Repr

namespace Document

mutual

def whole : Document → Bool
  | .broken => false
  | .list items closed => closed && wholeItems items
  | .fields entries closed => closed && wholeEntries entries
  | _ => true

def wholeItems : List Document → Bool
  | [] => true
  | item :: items => whole item && wholeItems items

def wholeEntries : List (String × Document) → Bool
  | [] => true
  | (_, value) :: entries => whole value && wholeEntries entries

end

/-- An entry put at its place; one that is there already under that name stays. -/
def placeEntry (key : String) (value : Document) :
    List (String × Document) → List (String × Document)
  | [] => [(key, value)]
  | first :: rest =>
      if key < first.1 then (key, value) :: first :: rest
      else if first.1 < key then first :: placeEntry key value rest
      else first :: rest

mutual

def held : Document → Document
  | .list items closed => .list (heldItems items) closed
  | .fields entries closed => .fields (heldEntries entries) closed
  | document => document

def heldItems : List Document → List Document
  | [] => []
  | item :: items => held item :: heldItems items

def heldEntries : List (String × Document) → List (String × Document)
  | [] => []
  | (key, value) :: entries => placeEntry key (held value) (heldEntries entries)

end

def field? (document : Document) (key : String) : Option Document :=
  match document with
  | .fields entries _ => entries.lookup key
  | _ => none

def items? : Document → Option (List Document)
  | .list items _ => some items
  | _ => none

def entries? : Document → Option (List (String × Document))
  | .fields entries _ => some entries
  | _ => none

def text? : Document → Option String
  | .text value => some value
  | _ => none

def integer? : Document → Option Int
  | .integer value => some value
  | _ => none

def bool? : Document → Option Bool
  | .bool value => some value
  | _ => none

def ofList (items : List Document) : Document :=
  .list items true

def ofFields (entries : List (String × Document)) : Document :=
  .fields entries true

def ofTexts (texts : List String) : Document :=
  ofList (texts.map .text)

def ofNat (number : Nat) : Document :=
  .integer number

def ofOption {α : Type} (value : Option α) (document : α → Document) : Document :=
  match value with
  | some content => document content
  | none => .null

end Document

end RoleGrants
