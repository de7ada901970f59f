import RoleGrants.Text.Split

/-! # Pieces of a text

A separator that stands in a text parts the pieces before it from the pieces behind
(`splitAt_append`), and a text without one is its own only piece.  So texts that
hold no separator come back when they are written with one behind each. -/

set_option autoImplicit false

namespace RoleGrants.Text

theorem splitAt_of_notMem {separator : Char} {characters : List Char}
    (clear : separator ∉ characters) : splitAt separator characters = [characters] := by
  induction characters with
  | nil => rfl
  | cons character rest ih =>
      obtain ⟨apart, clear⟩ : separator ≠ character ∧ separator ∉ rest := by simpa using clear
      rw [splitAt, if_neg (Ne.symm apart), ih clear]

theorem splitAt_append (separator : Char) (first last : List Char) :
    splitAt separator (first ++ separator :: last) =
      splitAt separator first ++ splitAt separator last := by
  induction first with
  | nil => simp [splitAt]
  | cons character rest ih =>
      rw [List.cons_append, splitAt, splitAt, ih]
      split
      · rfl
      · cases pieces : splitAt separator rest with
        | nil => exact absurd pieces (splitAt_ne_nil separator rest)
        | cons piece others => rfl

theorem separator_notMem {separator : Char} {characters piece : List Char}
    (member : piece ∈ splitAt separator characters) : separator ∉ piece := by
  induction characters generalizing piece with
  | nil =>
      rw [splitAt, List.mem_singleton] at member
      simp [member]
  | cons character rest ih =>
      rw [splitAt] at member
      split at member
      · rcases List.mem_cons.mp member with rfl | later
        · simp
        · exact ih later
      next apart =>
        cases pieces : splitAt separator rest with
        | nil => exact absurd pieces (splitAt_ne_nil separator rest)
        | cons front others =>
            rw [pieces] at member ih
            rcases List.mem_cons.mp member with rfl | later
            · have clear := ih List.mem_cons_self
              simpa [Ne.symm apart] using clear
            · exact ih (List.mem_cons_of_mem _ later)

theorem splitAt_flatMap_append (separator : Char) {pieces : List (List Char)}
    (clear : ∀ piece ∈ pieces, separator ∉ piece) (rest : List Char) :
    splitAt separator ((pieces.flatMap fun piece => piece ++ [separator]) ++ rest) =
      pieces ++ splitAt separator rest := by
  induction pieces with
  | nil => rfl
  | cons piece others ih =>
      have own := clear piece List.mem_cons_self
      have tail := ih fun other member => clear other (List.mem_cons_of_mem _ member)
      rw [List.flatMap_cons, List.append_assoc, List.append_assoc, List.singleton_append,
        splitAt_append, splitAt_of_notMem own, tail]
      rfl

theorem splitAt_flatMap (separator : Char) {pieces : List (List Char)}
    (clear : ∀ piece ∈ pieces, separator ∉ piece) :
    splitAt separator (pieces.flatMap fun piece => piece ++ [separator]) = pieces ++ [[]] := by
  have cut := splitAt_flatMap_append separator clear []
  rwa [List.append_nil] at cut

/-- With a separator behind each, texts begin as others do only if they are the first of these. -/
theorem flatMap_prefix_iff (separator : Char) {first pieces : List (List Char)}
    (clear : ∀ piece ∈ first, separator ∉ piece) (others : ∀ piece ∈ pieces, separator ∉ piece) :
    (first.flatMap fun piece => piece ++ [separator]) <+:
        (pieces.flatMap fun piece => piece ++ [separator]) ↔ first <+: pieces := by
  constructor
  · rintro ⟨rest, whole⟩
    have cut := congrArg (splitAt separator) whole
    rw [splitAt_flatMap_append separator clear, splitAt_flatMap separator others] at cut
    have shorter := congrArg List.dropLast cut
    rw [List.dropLast_append_of_ne_nil (splitAt_ne_nil separator rest),
      List.dropLast_concat] at shorter
    exact ⟨_, shorter⟩
  · rintro ⟨rest, rfl⟩
    rw [List.flatMap_append]
    exact List.prefix_append _ _

theorem join_append (separator : Char) {first last : List (List Char)} (some_ : first ≠ [])
    (others : last ≠ []) :
    join separator (first ++ last) = join separator first ++ separator :: join separator last := by
  induction first with
  | nil => exact absurd rfl some_
  | cons piece rest ih =>
      cases rest with
      | nil =>
          obtain ⟨next, more, rfl⟩ := List.exists_cons_of_ne_nil others
          rfl
      | cons next more =>
          have tail := ih (by simp)
          rw [List.cons_append] at tail
          rw [List.cons_append, List.cons_append, join, join, tail]
          simp

theorem splitAt_join {separator : Char} {pieces : List (List Char)} (some_ : pieces ≠ [])
    (clear : ∀ piece ∈ pieces, separator ∉ piece) :
    splitAt separator (join separator pieces) = pieces := by
  induction pieces with
  | nil => exact absurd rfl some_
  | cons piece rest ih =>
      have own := splitAt_of_notMem (clear piece List.mem_cons_self)
      cases rest with
      | nil => exact own
      | cons next more =>
          have tail := ih (by simp) fun other member => clear other (List.mem_cons_of_mem _ member)
          rw [join, splitAt_append, own, tail]
          rfl

end RoleGrants.Text
