import Mathlib.Data.List.Forall2
import RoleGrants.Engine.Pattern.Search

/-! # What a search finds

A match that has begun comes off in a text when its pattern needs nothing more there, or
something that a character leaves over comes off behind it (`comesOff`).  A search finds
a pattern exactly if a match of it comes off that begins at the beginning of the text or
behind one of its characters (`isFound_iff`). -/

set_option autoImplicit false

namespace RoleGrants.Pattern

/-- A match of the pattern that has begun comes to its end in the text. -/
def comesOff : Option Char → List Char → Pattern → Bool
  | before, [], pattern => pattern.needsNothing before none
  | before, character :: rest, pattern =>
      pattern.needsNothing before (some character) ||
        (pattern.leftovers before character).any (comesOff (some character) rest)

/-- A match of the pattern that begins behind a character comes to its end in the text. -/
def ComesOffWithin (pattern : Pattern) (text : List Char) : Prop :=
  ∃ front character rest, text = front ++ character :: rest ∧
    pattern.comesOff (some character) rest = true

theorem comesOffWithin_cons (pattern : Pattern) (first : Char) (rest : List Char) :
    pattern.ComesOffWithin (first :: rest) ↔
      pattern.comesOff (some first) rest = true ∨ pattern.ComesOffWithin rest := by
  constructor
  · rintro ⟨front, character, behind, same, found⟩
    cases front with
    | nil =>
        cases same
        exact .inl found
    | cons head front =>
        cases same
        exact .inr ⟨front, character, behind, rfl, found⟩
  · rintro (found | ⟨front, character, behind, rfl, found⟩)
    · exact ⟨[], first, rest, rfl, found⟩
    · exact ⟨first :: front, character, behind, rfl, found⟩

theorem search_iff (whole : Pattern) (before : Option Char) (begun : List Pattern)
    (text : List Char) :
    search whole before begun text = true ↔
      (∃ left ∈ begun, left.comesOff before text = true) ∨ whole.ComesOffWithin text := by
  induction text generalizing before begun with
  | nil =>
      have nowhere : ¬ whole.ComesOffWithin [] := by
        rintro ⟨front, character, rest, same, _⟩
        simp at same
      simp only [search, List.any_eq_true, comesOff, nowhere, or_false]
  | cons character rest ih =>
      rw [search, Bool.or_eq_true, ih, comesOffWithin_cons]
      simp only [List.any_eq_true, comesOff, Bool.or_eq_true, List.mem_eraseDups, List.mem_cons,
        List.mem_flatMap]
      constructor
      · rintro (⟨left, member, finished⟩ | ⟨_, rfl | ⟨left, member, behind⟩, found⟩ | within)
        · exact .inl ⟨left, member, .inl finished⟩
        · exact .inr (.inl found)
        · exact .inl ⟨left, member, .inr ⟨_, behind, found⟩⟩
        · exact .inr (.inr within)
      · rintro (⟨left, member, finished | ⟨next, behind, found⟩⟩ | found | within)
        · exact .inl ⟨left, member, finished⟩
        · exact .inr (.inl ⟨next, .inr ⟨left, member, behind⟩, found⟩)
        · exact .inr (.inl ⟨whole, .inl rfl, found⟩)
        · exact .inr (.inr within)

theorem isFound_iff (pattern : Pattern) (text : String) :
    pattern.isFound text = true ↔
      pattern.comesOff none text.toList = true ∨ pattern.ComesOffWithin text.toList := by
  rw [isFound, search_iff]
  simp only [List.mem_singleton, exists_eq_left]

/-! ## Patterns that are held to both ends -/

def steps (sets : List CharSet) : Pattern :=
  sets.foldr (fun set rest => .both (.one set) rest) (.both (.look .textFinish) .empty)

def anchored (sets : List CharSet) : Pattern :=
  .both (.look .textStart) (steps sets)

theorem comesOff_steps (before : Option Char) (sets : List CharSet) (text : List Char) :
    (steps sets).comesOff before text = true ↔
      List.Forall₂ (fun set character => set.holds character = true) sets text := by
  induction sets generalizing before text with
  | nil =>
      cases text with
      | nil => simp [steps, comesOff, needsNothing, Look.isAt]
      | cons character rest => simp [steps, comesOff, needsNothing, leftovers, Look.isAt]
  | cons set sets ih =>
      have unfolded : steps (set :: sets) = .both (.one set) (steps sets) := rfl
      cases text with
      | nil => simp [unfolded, comesOff, needsNothing]
      | cons character rest =>
          rw [unfolded, List.forall₂_cons, ← ih (some character) rest]
          by_cases held : set.holds character = true
          · simp [comesOff, needsNothing, leftovers, followedBy, held]
          · simp [comesOff, needsNothing, leftovers, held]

theorem not_comesOffWithin_anchored (sets : List CharSet) (text : List Char) :
    ¬ (anchored sets).ComesOffWithin text := by
  rintro ⟨front, character, rest, _, found⟩
  cases rest with
  | nil => simp [anchored, comesOff, needsNothing, Look.isAt] at found
  | cons next rest => simp [anchored, comesOff, needsNothing, leftovers, Look.isAt] at found

theorem comesOff_anchored (sets : List CharSet) (text : List Char) :
    (anchored sets).comesOff none text = (steps sets).comesOff none text := by
  cases text with
  | nil => simp [anchored, comesOff, needsNothing, Look.isAt]
  | cons character rest => simp [anchored, comesOff, needsNothing, leftovers, Look.isAt]

theorem isFound_anchored (sets : List CharSet) (text : String) :
    (anchored sets).isFound text = true ↔
      List.Forall₂ (fun set character => set.holds character = true) sets text.toList := by
  rw [isFound_iff, comesOff_anchored, comesOff_steps]
  exact or_iff_left (not_comesOffWithin_anchored sets _)

end RoleGrants.Pattern
