import RoleGrants.Document
import RoleGrants.Text.Quoted
import RoleGrants.Text.Split

/-! # Records in documents

A `Layout` says how a record is made of named fields: what each field holds,
where it goes, and which fields must be given.  `Layout.read` follows the
document in the order in which it is written, so of several faults the first
one met is reported; a missing field is met at the end of the record.

A record may also be given as the list of its fields in declaration order. -/

set_option autoImplicit false

namespace RoleGrants

inductive Slot (α : Type) where
  | text (put : String → α → α)
  | texts (put : List String → α → α)
  | choice (variants : List (String × (α → α)))

structure Layout (α : Type) where
  name : String
  blank : α
  slots : List (String × Slot α)
  required : List String

inductive Found where
  | null
  | bool (value : Bool)
  | integer (value : Int)
  | real (text : String)
  | text (value : String)
  | list
  | map
  deriving DecidableEq, Repr

namespace Found

def phrase : Found → String
  | .null => "null"
  | .bool true => "boolean `true`"
  | .bool false => "boolean `false`"
  | .integer value => "integer `" ++ toString value ++ "`"
  | .real digits => "floating point `" ++ digits ++ "`"
  | .text value => "string " ++ Text.quote value
  | .list => "sequence"
  | .map => "map"

end Found

inductive Fault where
  | missing (field : String)
  | repeated (field : String)
  | wrongType (found : Found) (expected : String)
  | wrongEntries
  | unknownVariant (name : String) (known : List String)
  | wrongLength (count : Nat) (expected : String)
  deriving DecidableEq, Repr

namespace Fault

def choices : List String → String
  | [] => "there are no variants"
  | [only] => "expected `" ++ only ++ "`"
  | [first, second] => "expected `" ++ first ++ "` or `" ++ second ++ "`"
  | names => "expected one of " ++ Text.joinWith ", " (names.map fun name => "`" ++ name ++ "`")

def message : Fault → String
  | .missing field => "missing field `" ++ field ++ "`"
  | .repeated field => "duplicate field `" ++ field ++ "`"
  | .wrongType found expected => "invalid type: " ++ found.phrase ++ ", expected " ++ expected
  | .wrongEntries => "invalid value: map, expected map with a single key"
  | .unknownVariant name known => "unknown variant `" ++ name ++ "`, " ++ choices known
  | .wrongLength count expected =>
      "invalid length " ++ toString count ++ ", expected " ++ expected

end Fault

inductive Step where
  | field (name : String)
  | item (index : Nat)
  deriving DecidableEq, Repr

def pathText : List Step → String
  | [] => ""
  | .field name :: rest => name ++ restText rest
  | steps => restText steps
where
  restText : List Step → String
    | [] => ""
    | .field name :: rest => "." ++ name ++ restText rest
    | .item index :: rest => "[" ++ toString index ++ "]" ++ restText rest

inductive Unread where
  | broken
  | fault (place : List Step) (fault : Fault)
  deriving DecidableEq, Repr

namespace Unread

def under (step : Step) : Unread → Unread
  | .broken => .broken
  | .fault place cause => .fault (step :: place) cause

end Unread

inductive Origin where
  | held
  | written
  deriving DecidableEq, Repr

namespace Document

def found : Document → Option Found
  | .null => some .null
  | .bool value => some (.bool value)
  | .integer value => some (.integer value)
  | .real digits => some (.real digits)
  | .text value => some (.text value)
  | .list _ _ => some .list
  | .fields _ _ => some .map
  | .unusable => none
  | .broken => none

def mistaken (document : Document) (expected : String) : Unread :=
  match document.found with
  | some found => .fault [] (.wrongType found expected)
  | none => .broken

def readText : Document → Except Unread String
  | .text value => .ok value
  | document => .error (document.mistaken "a string")

def readTextItems : List Document → Nat → Except Unread (List String)
  | [], _ => .ok []
  | item :: items, index =>
      match item.readText with
      | .error unread => .error (unread.under (.item index))
      | .ok first =>
          match readTextItems items (index + 1) with
          | .error unread => .error unread
          | .ok texts => .ok (first :: texts)

def readTexts : Document → Except Unread (List String)
  | .list items closed =>
      match readTextItems items 0 with
      | .error unread => .error unread
      | .ok texts => if closed then .ok texts else .error .broken
  | document => .error (document.mistaken "a sequence")

def variant {β : Type} (variants : List (String × β)) (name : String) : Except Unread β :=
  match variants.lookup name with
  | some value => .ok value
  | none => .error (.fault [] (.unknownVariant name (variants.map Prod.fst)))

/-- One of several names, alone or as the only key over a null. -/
def readVariant {β : Type} (variants : List (String × β)) (document : Document) :
    Except Unread β :=
  match document with
  | .text name => variant variants name
  | .fields [(name, content)] _ =>
      match variant variants name with
      | .error unread => .error unread
      | .ok value =>
          match content with
          | .null => .ok value
          | other => .error (other.mistaken "unit")
  | .fields _ _ => .error (.fault [] .wrongEntries)
  | other => .error (other.mistaken "string or map")

end Document

namespace Slot

def read {α : Type} (slot : Slot α) (document : Document) (record : α) : Except Unread α :=
  match slot with
  | .text put => document.readText.map fun value => put value record
  | .texts put => document.readTexts.map fun values => put values record
  | .choice variants => (document.readVariant variants).map fun change => change record

end Slot

namespace Layout

variable {α : Type}

def title (layout : Layout α) : String :=
  "struct " ++ layout.name

def size (layout : Layout α) : String :=
  layout.title ++ " with " ++ toString layout.slots.length ++ " elements"

/-- The fields in the order in which they are written; fields of other names are passed over. -/
def readEntries (layout : Layout α) :
    List (String × Document) → List String → α → Except Unread (α × List String)
  | [], seen, record => .ok (record, seen)
  | (name, value) :: entries, seen, record =>
      match layout.slots.lookup name with
      | none => if value.whole then readEntries layout entries seen record else .error .broken
      | some slot =>
          if name ∈ seen then .error (.fault [] (.repeated name))
          else
            match slot.read value record with
            | .error unread => .error (unread.under (.field name))
            | .ok next => readEntries layout entries (name :: seen) next

/-- Fields without names; what is left over stays for the caller. -/
def readItems (layout : Layout α) (closed : Bool) :
    List (String × Slot α) → List Document → Nat → α → Except Unread (α × List Document)
  | [], items, _, record => .ok (record, items)
  | (name, slot) :: slots, items, index, record =>
      match items with
      | [] =>
          if !closed then .error .broken
          else if name ∈ layout.required then .error (.fault [] (.wrongLength index layout.size))
          else readItems layout closed slots [] (index + 1) record
      | item :: rest =>
          match slot.read item record with
          | .error unread => .error (unread.under (.item index))
          | .ok next => readItems layout closed slots rest (index + 1) next

def read (layout : Layout α) (origin : Origin) (document : Document) : Except Unread α :=
  match document with
  | .fields entries closed =>
      match layout.readEntries entries [] layout.blank with
      | .error unread => .error unread
      | .ok (record, seen) =>
          if closed then
            match layout.required.find? fun name => !seen.contains name with
            | some name => .error (.fault [] (.missing name))
            | none => .ok record
          else .error .broken
  | .list items closed =>
      match layout.readItems closed layout.slots items 0 layout.blank with
      | .error unread => .error unread
      | .ok (record, []) => if closed then .ok record else .error .broken
      | .ok (_, _ :: _) =>
          match origin with
          | .held => .error (.fault [] (.wrongLength items.length "fewer elements in array"))
          | .written => .error .broken
  | other => .error (other.mistaken layout.title)

end Layout

end RoleGrants
