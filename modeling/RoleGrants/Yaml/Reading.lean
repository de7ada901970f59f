import RoleGrants.Document.Layout
import RoleGrants.Yaml.Node

/-! # Values in YAML texts

What is read from a node depends on what is wanted there.  A text is any
scalar as it is written; a flag is one of the words for true and false, and a
count a whole number, both unquoted; an empty value is an empty list or record
where one is wanted, and absent where absence is allowed, as are the words for
null, unless a tag makes them something else.  Records name known fields at most
once, and other names are passed over. -/

set_option autoImplicit false

namespace RoleGrants.Yaml

namespace Node

def text? : Node → Option String
  | .scalar text _ _ => some text
  | _ => none

/-- A scalar without quotes, or a literal one that is tagged as of the kind. -/
def bare? (kind : String) : Node → Option String
  | .scalar text .plain _ => some text
  | .scalar text .literal (some tag) => if tag = Tag.known kind then some text else none
  | _ => none

def flag? (node : Node) : Option Bool :=
  (node.bare? "bool").bind fun text =>
    if text ∈ ["true", "True", "TRUE"] then some true
    else if text ∈ ["false", "False", "FALSE"] then some false
    else none

def radixDigits? : List Char → Option Nat
  | '0' :: 'x' :: digits => Text.digits? 16 digits
  | '0' :: 'o' :: digits => Text.digits? 8 digits
  | '0' :: 'b' :: digits => Text.digits? 2 digits
  | _ => none

/-- Zero in front of other digits makes a text, not a number. -/
def isPadded (characters : List Char) : Bool :=
  characters.head? == some '0' && 1 < characters.length && characters.all Text.isDigit

def number? (limit : Nat) (characters : List Char) : Option Nat :=
  let digits := match characters with
    | '+' :: rest => rest
    | _ => characters
  match (radixDigits? digits).bind (Text.atMost? limit) with
  | some number => some number
  | none =>
      if isPadded digits then none else (Text.digits? 10 digits).bind (Text.atMost? limit)

def count? (limit : Nat) (node : Node) : Option Nat :=
  (node.bare? "int").bind fun text =>
    (number? Text.largest64 text.toList).bind (Text.atMost? limit)

def isNull (text : String) : Bool :=
  text == "null" || text == "Null" || text == "NULL" || text == "~"

/-- A value that may be absent; the outer option is whether it could be read.

What is tagged is there, whatever it is written as, unless it is tagged as null: then it has to
be one of the words for it. -/
def optional? {α : Type} (read : Node → Option α) : Node → Option (Option α)
  | .scalar text .plain none =>
      if text = "" ∨ isNull text then some none
      else (read (.scalar text .plain none)).map some
  | .scalar text .plain (some tag) =>
      if tag = Tag.known "null" then
        if isNull text then some none else none
      else (read (.scalar text .plain (some tag))).map some
  | node => (read node).map some

/-- One of some names: the tag of the text's own that an absent value has, or a text. -/
def variant? : Node → Option String
  | .scalar text style (some tag) =>
      if tag.toList.head? = some '!' then
        if style = .plain ∧ (text = "" ∨ isNull text) then
          some (if tag = "!" then tag else String.ofList tag.toList.tail)
        else none
      else some text
  | node => node.text?

def items? : Node → Option (List Node)
  | .list items => some items
  | .scalar "" .plain _ => some []
  | _ => none

def listOf? {α : Type} (read : Node → Option α) (node : Node) : Option (List α) :=
  node.items?.bind fun items => items.mapM read

def entries? : Node → Option (List (Node × Node))
  | .map entries => some entries
  | .scalar "" .plain _ => some []
  | _ => none

end Node

/-- What each known name does with its value, to the record read so far. -/
abbrev Fields (α : Type) := List (String × (Node → α → Option α))

def readEntries {α : Type} (fields : Fields α) :
    List (Node × Node) → List String → α → Option (α × List String)
  | [], seen, record => some (record, seen)
  | (key, value) :: entries, seen, record =>
      match key.text? with
      | none => none
      | some name =>
          match fields.lookup name with
          | none => readEntries fields entries seen record
          | some put =>
              if name ∈ seen then none
              else
                match put value record with
                | none => none
                | some next => readEntries fields entries (name :: seen) next

def readFields {α : Type} (fields : Fields α) (required : List String) (blank : α)
    (node : Node) : Option α :=
  match node.entries? with
  | none => none
  | some entries =>
      match readEntries fields entries [] blank with
      | none => none
      | some (record, seen) => if required.all seen.contains then some record else none

def slotReader {α : Type} : Slot α → Node → α → Option α
  | .text put, node, record => node.text?.map fun value => put value record
  | .texts put, node, record => (node.listOf? Node.text?).map fun values => put values record
  | .choice variants, node, record =>
      (node.variant?.bind fun name => variants.lookup name).map fun change => change record

def readLayout {α : Type} (layout : Layout α) (node : Node) : Option α :=
  readFields (layout.slots.map fun (name, slot) => (name, slotReader slot)) layout.required
    layout.blank node

end RoleGrants.Yaml
