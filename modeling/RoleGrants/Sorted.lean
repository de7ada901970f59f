/-! # Ordered lists without repetition

A finite set is kept as a strictly ascending list.  `insertNew` adds a member:
what it yields holds the new member and the old ones and nothing else
(`mem_insertNew`), and it ascends again (`pairwise_insertNew`). -/

set_option autoImplicit false

namespace RoleGrants

def insertNew {α : Type} [LT α] [DecidableLT α] (value : α) : List α → List α
  | [] => [value]
  | first :: rest =>
      if value < first then value :: first :: rest
      else if first < value then first :: insertNew value rest
      else first :: rest

theorem mem_insertNew {α : Type} [LT α] [DecidableLT α]
    (connected : ∀ left right : α, ¬ left < right → ¬ right < left → left = right)
    (value member : α) (members : List α) :
    member ∈ insertNew value members ↔ member = value ∨ member ∈ members := by
  induction members with
  | nil => simp [insertNew]
  | cons first rest ih =>
      simp only [insertNew]
      split
      · simp
      · split
        · simp only [List.mem_cons, ih]
          exact or_left_comm
        · next above below =>
            have same := connected value first above below
            simp [same]

theorem pairwise_insertNew {α : Type} [LT α] [DecidableLT α]
    (connected : ∀ left right : α, ¬ left < right → ¬ right < left → left = right)
    (transitive : ∀ first second third : α, first < second → second < third → first < third)
    (value : α) {members : List α} (ordered : members.Pairwise fun left right => left < right) :
    (insertNew value members).Pairwise fun left right => left < right := by
  induction members with
  | nil => simp [insertNew]
  | cons first rest ih =>
      obtain ⟨below, tail⟩ := List.pairwise_cons.mp ordered
      simp only [insertNew]
      split
      · next above =>
          refine List.pairwise_cons.mpr ⟨?_, ordered⟩
          intro member present
          rcases List.mem_cons.mp present with rfl | later
          · exact above
          · exact transitive _ _ _ above (below member later)
      · split
        · next above =>
            refine List.pairwise_cons.mpr ⟨?_, ih tail⟩
            intro member present
            rcases (mem_insertNew connected value member rest).mp present with rfl | later
            · exact above
            · exact below member later
        · exact ordered

def insertAll {α : Type} [LT α] [DecidableLT α] (values : List α) (members : List α) : List α :=
  values.foldl (fun current value => insertNew value current) members

def ascending {α : Type} [LT α] [DecidableLT α] (values : List α) : List α :=
  insertAll values []

def sortBy {α κ : Type} [LT κ] [DecidableLT κ] (key : α → κ) (values : List α) : List α :=
  values.mergeSort fun left right => decide (¬ key right < key left)

/-- Of every run of neighbours with equal keys the first is kept. -/
def dropRepeats {α κ : Type} [DecidableEq κ] (key : α → κ) : List α → List α
  | [] => []
  | [value] => [value]
  | value :: next :: rest =>
      if key value = key next then dropRepeats key (value :: rest)
      else value :: dropRepeats key (next :: rest)
termination_by values => values.length

end RoleGrants
