import RoleGrants.Settings.Overrides

/-! # Fields of a document

A document names a field by an entry with a value that is not null (`Node.given?`).  When a
record is read from it, each entry writes to the field of its name and keeps the others
(`Keeps`), and no field is written to twice.  So a field holds in the end what the document
gives under its name, and nothing where it does not name it (`given_of_readFields`). -/

set_option autoImplicit false

namespace RoleGrants.Yaml

namespace Node

/-- Nothing at all and the words for null stand for no value, with a tag only if that is null. -/
def isAbsent : Node → Bool
  | .scalar text .plain none => text == "" || isNull text
  | .scalar text .plain (some tag) => tag == Tag.known "null" && isNull text
  | _ => false

def isNamed (name : String) (entry : Node × Node) : Bool :=
  entry.1.text? == some name

/-- The value under a name, unless it is null. -/
def given? (document : Node) (name : String) : Option Node :=
  (((document.entries?.getD []).find? (isNamed name)).map Prod.snd).filter fun value =>
    !value.isAbsent

inductive Gives {β : Type} (document : Node) (name : String) (read : Node → Option β) :
    Option β → Prop
  | unnamed (absent : document.given? name = none) : Gives document name read none
  | named {value : Node} {content : β} (found : document.given? name = some value)
      (written : read value = some content) : Gives document name read (some content)

namespace Gives

variable {β : Type} {document : Node} {name : String} {read : Node → Option β} {held : Option β}

theorem bind_eq (gives : document.Gives name read held) :
    (document.given? name).bind read = held := by
  cases gives with
  | unnamed absent => rw [absent, Option.bind_none]
  | named found written => rw [found, Option.bind_some, written]

theorem isSome_iff (gives : document.Gives name read held) :
    held.isSome ↔ (document.given? name).isSome := by
  cases gives with
  | unnamed absent => rw [absent, Option.isSome_none, Option.isSome_none]
  | named found _ => rw [found, Option.isSome_some, Option.isSome_some]

end Gives

theorem optional?_cases {β : Type} {read : Node → Option β} {node : Node} {held : Option β}
    (done : node.optional? read = some held) :
    (node.isAbsent = true ∧ held = none) ∨
      (node.isAbsent = false ∧ ∃ content, read node = some content ∧ held = some content) := by
  have there : ∀ other : Node, other.isAbsent = false → (read other).map some = some held →
      other.isAbsent = false ∧ ∃ content, read other = some content ∧ held = some content := by
    intro other present written
    obtain ⟨content, same, rfl⟩ := Option.map_eq_some_iff.mp written
    exact ⟨present, content, same, rfl⟩
  cases node with
  | list items => exact .inr (there _ rfl done)
  | map entries => exact .inr (there _ rfl done)
  | scalar text style tag =>
      cases style with
      | literal => exact .inr (there _ rfl done)
      | other => exact .inr (there _ rfl done)
      | plain =>
          cases tag with
          | none =>
              rw [optional?] at done
              split at done
              next null => exact .inl ⟨by simpa [isAbsent] using null, (Option.some.inj done).symm⟩
              next word => exact .inr (there _ (by simpa [isAbsent] using word) done)
          | some tag =>
              rw [optional?] at done
              split at done
              next known =>
                split at done
                next null =>
                  exact .inl ⟨by simp [isAbsent, known, null], (Option.some.inj done).symm⟩
                next word => cases done
              next other => exact .inr (there _ (by simp [isAbsent, other]) done)

end Node

/-- Reading a value into a record leaves this part of it as it is. -/
def Keeps {α β : Type} (get : α → β) (put : Node → α → Option α) : Prop :=
  ∀ node record next, put node record = some next → get next = get record

section Reading

variable {α β : Type} {fields : Fields α} {name : String} {read : Node → Option β}
  {put : Option β → α → α} {get : α → Option β} {entries : List (Node × Node)}
  {seen names : List String} {record final : α}

theorem keeps_optionalField {γ : Type} {get : α → γ} (kept : ∀ value record,
    get (put value record) = get record) : Keeps get (optionalField read put) := by
  intro node record next step
  obtain ⟨value, _, rfl⟩ := Option.map_eq_some_iff.mp step
  exact kept value record

theorem keeps_of_lookup (apart : ∀ row ∈ fields, row.1 ≠ name → Keeps get row.2)
    {other : String} {step : Node → α → Option α} (found : fields.lookup other = some step)
    (differs : other ≠ name) : Keeps get step := by
  obtain ⟨before, after, rfl, _⟩ := List.lookup_eq_some_iff.mp found
  exact apart (other, step) (by simp) differs

/-- Once it has been written to, a field stays as it is. -/
theorem get_of_seen (apart : ∀ row ∈ fields, row.1 ≠ name → Keeps get row.2) (old : name ∈ seen)
    (done : readEntries fields entries seen record = some (final, names)) :
    get final = get record := by
  induction entries generalizing seen record with
  | nil =>
      cases done
      rfl
  | cons entry entries ih =>
      obtain ⟨key, value⟩ := entry
      rw [readEntries] at done
      split at done
      next nameless => cases done
      next other text =>
        split at done
        next unknown => exact ih old done
        next step found =>
          split at done
          next again => cases done
          next fresh =>
            split at done
            next unreadable => cases done
            next later wrote =>
              have differs : other ≠ name := fun same => fresh (same ▸ old)
              rw [ih (List.mem_cons_of_mem _ old) done,
                keeps_of_lookup apart found differs value record later wrote]

/-- Up to the one entry of its name a field keeps what it held, and from there on what it gives. -/
theorem get_of_readEntries (listed : fields.lookup name = some (optionalField read put))
    (own : ∀ value record, get (put value record) = value)
    (apart : ∀ row ∈ fields, row.1 ≠ name → Keeps get row.2) (new : name ∉ seen)
    (done : readEntries fields entries seen record = some (final, names)) :
    match entries.find? (Node.isNamed name) with
    | some entry => entry.2.optional? read = some (get final)
    | none => get final = get record := by
  induction entries generalizing seen record with
  | nil =>
      cases done
      rfl
  | cons entry entries ih =>
      obtain ⟨key, value⟩ := entry
      rw [readEntries] at done
      split at done
      next nameless => cases done
      next other text =>
        by_cases same : other = name
        · subst same
          have named : Node.isNamed other (key, value) = true := by simp [Node.isNamed, text]
          rw [List.find?_cons_of_pos named]
          rw [listed] at done
          dsimp only at done
          -- The name has not been seen so far; from the next entry on it has.
          rw [if_neg new] at done
          split at done
          next unreadable => cases done
          next later wrote =>
            obtain ⟨content, given, rfl⟩ := Option.map_eq_some_iff.mp wrote
            have kept := get_of_seen apart List.mem_cons_self done
            rw [kept, own]
            exact given
        · have unnamed : ¬ Node.isNamed name (key, value) = true := by
            simp [Node.isNamed, text, same]
          rw [List.find?_cons_of_neg unnamed]
          split at done
          next unknown => exact ih new done
          next step found =>
            split at done
            next again => cases done
            next fresh =>
              split at done
              next unreadable => cases done
              next later wrote =>
                have still : name ∉ other :: seen := by simp [Ne.symm same, new]
                rw [← keeps_of_lookup apart found same value record later wrote]
                exact ih still done

theorem given_of_readFields {required : List String} {blank : α} {document : Node}
    (listed : fields.lookup name = some (optionalField read put))
    (own : ∀ value record, get (put value record) = value)
    (apart : ∀ row ∈ fields, row.1 ≠ name → Keeps get row.2) (empty : get blank = none)
    (done : readFields fields required blank document = some final) :
    document.Gives name read (get final) := by
  rw [readFields] at done
  split at done
  next other => cases done
  next entries pairs =>
    split at done
    next unreadable => cases done
    next record names filled =>
      split at done
      next complete =>
        cases done
        have held := get_of_readEntries listed own apart List.not_mem_nil filled
        cases found : entries.find? (Node.isNamed name) with
        | none =>
            rw [found] at held
            rw [held.trans empty]
            exact .unnamed (by simp [Node.given?, pairs, found])
        | some entry =>
            rw [found] at held
            dsimp only at held
            rcases Node.optional?_cases held with ⟨absent, nothing⟩ |
              ⟨present, content, written, same⟩
            · rw [nothing]
              exact .unnamed (by simp [Node.given?, pairs, found, absent])
            · rw [same]
              exact .named (by simp [Node.given?, pairs, found, present]) written
      next incomplete => cases done

end Reading

end RoleGrants.Yaml
