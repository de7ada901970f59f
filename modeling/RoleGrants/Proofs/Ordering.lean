import Mathlib.Data.List.Lex
import Mathlib.Data.List.Nodup
import Mathlib.Data.String.Basic
import RoleGrants.Line
import RoleGrants.Sorted

/-! # Laws of ordered lists

Texts, rules and lines are strictly and completely ordered (`StrictOrder`).  For
such an order `ascending` gives the members of a list in strictly ascending order,
and a strictly ascending list is known by its members alone (`eq_of_ascending`).
A stable sort leaves an ascending list as it is, and brings every arrangement of its
members back to it (`sortBy_of_perm`).  Values with one key stay in their order
(`filter_sortBy`), so that of each run the first that had the key is kept
(`find?_of_mem_dropRepeats`). -/

set_option autoImplicit false

namespace RoleGrants

structure StrictOrder (α : Type) [LT α] : Prop where
  connected : ∀ left right : α, ¬ left < right → ¬ right < left → left = right
  transitive : ∀ first second third : α, first < second → second < third → first < third
  irreflexive : ∀ value : α, ¬ value < value

theorem StrictOrder.ofLinear {α : Type} [LinearOrder α] : StrictOrder α where
  connected _ _ above below := le_antisymm (not_lt.mp below) (not_lt.mp above)
  transitive _ _ _ := lt_trans
  irreflexive := lt_irrefl

theorem text_strictOrder : StrictOrder String :=
  StrictOrder.ofLinear

theorem rule_strictOrder : StrictOrder (List String) :=
  StrictOrder.ofLinear

theorem Line.lt_iff (first second : Line) :
    first < second ↔ first.subject < second.subject ∨ first.subject = second.subject ∧
      (first.object < second.object ∨
        first.object = second.object ∧ first.action < second.action) := by
  change first.rule < second.rule ↔ _
  simp only [rule, List.cons_lt_cons_iff, List.not_lt_nil, and_false, or_false]

theorem Line.strictOrder : StrictOrder Line where
  connected _ _ above below := Line.rule_injective (rule_strictOrder.connected _ _ above below)
  transitive _ _ _ := rule_strictOrder.transitive _ _ _
  irreflexive _ := rule_strictOrder.irreflexive _

namespace StrictOrder

variable {α : Type} [LT α]

theorem asymmetric (order : StrictOrder α) {left right : α} (above : left < right) :
    ¬ right < left := by
  intro below
  exact order.irreflexive left (order.transitive _ _ _ above below)

theorem not_lt_trans (order : StrictOrder α) {first second third : α}
    (above : ¬ second < first) (below : ¬ third < second) : ¬ third < first := by
  intro turned
  by_cases between : first < second
  · exact below (order.transitive _ _ _ turned between)
  · exact below (order.connected _ _ between above ▸ turned)

theorem not_lt_or (order : StrictOrder α) (left right : α) : ¬ right < left ∨ ¬ left < right := by
  by_cases turned : right < left
  · exact .inr (order.asymmetric turned)
  · exact .inl turned

theorem nodup_of_ascending (order : StrictOrder α) {values : List α}
    (ascends : values.Pairwise fun left right => left < right) : values.Nodup := by
  refine ascends.imp ?_
  rintro left _ above rfl
  exact order.irreflexive left above

theorem eq_of_ascending (order : StrictOrder α) {first second : List α}
    (firstAscends : first.Pairwise fun left right => left < right)
    (secondAscends : second.Pairwise fun left right => left < right)
    (same : ∀ value, value ∈ first ↔ value ∈ second) : first = second := by
  have permuted : first.Perm second :=
    (List.perm_ext_iff_of_nodup (order.nodup_of_ascending firstAscends)
      (order.nodup_of_ascending secondAscends)).mpr same
  refine permuted.eq_of_pairwise ?_ firstAscends secondAscends
  intro left right _ _ above below
  exact absurd below (order.asymmetric above)

variable [DecidableLT α]

theorem mem_insertAll (order : StrictOrder α) (values members : List α) (member : α) :
    member ∈ insertAll values members ↔ member ∈ values ∨ member ∈ members := by
  induction values generalizing members with
  | nil => simp [insertAll]
  | cons value rest ih =>
      have tail := ih (insertNew value members)
      rw [mem_insertNew order.connected] at tail
      simp only [insertAll, List.foldl_cons, List.mem_cons] at tail ⊢
      rw [tail]
      exact or_left_comm.trans or_assoc.symm

theorem pairwise_insertAll (order : StrictOrder α) (values : List α) {members : List α}
    (ascends : members.Pairwise fun left right => left < right) :
    (insertAll values members).Pairwise fun left right => left < right := by
  induction values generalizing members with
  | nil => exact ascends
  | cons value rest ih =>
      exact ih (pairwise_insertNew order.connected order.transitive value ascends)

theorem mem_ascending (order : StrictOrder α) (values : List α) (member : α) :
    member ∈ ascending values ↔ member ∈ values := by
  rw [ascending, order.mem_insertAll]
  simp

theorem pairwise_ascending (order : StrictOrder α) (values : List α) :
    (ascending values).Pairwise fun left right => left < right :=
  order.pairwise_insertAll values List.Pairwise.nil

end StrictOrder

/-! ## Stable sorts -/

section Sorting

variable {α κ : Type} [LT κ] [DecidableLT κ]

@[simp] theorem mem_sortBy (key : α → κ) (values : List α) (value : α) :
    value ∈ sortBy key values ↔ value ∈ values :=
  List.mem_mergeSort

/-! The comparison that the sort makes is transitive, and total. -/

theorem comparison_trans (order : StrictOrder κ) (key : α → κ) (first second third : α)
    (above : decide (¬ key second < key first) = true)
    (below : decide (¬ key third < key second) = true) :
    decide (¬ key third < key first) = true :=
  decide_eq_true (order.not_lt_trans (of_decide_eq_true above) (of_decide_eq_true below))

theorem comparison_total (order : StrictOrder κ) (key : α → κ) (left right : α) :
    (decide (¬ key right < key left) || decide (¬ key left < key right)) = true := by
  simpa using order.not_lt_or (key left) (key right)

theorem sortBy_of_ascending (order : StrictOrder κ) (key : α → κ) {values : List α}
    (ascends : values.Pairwise fun left right => key left < key right) :
    sortBy key values = values := by
  refine List.mergeSort_of_pairwise (ascends.imp ?_)
  intro left right above
  exact decide_eq_true (order.asymmetric above)

theorem pairwise_sortBy (order : StrictOrder κ) (key : α → κ) (values : List α) :
    (sortBy key values).Pairwise fun left right => ¬ key right < key left :=
  (List.pairwise_mergeSort (comparison_trans order key) (comparison_total order key) values).imp
    of_decide_eq_true

/-- Values with one key stay in the order that they are in. -/
theorem filter_sortBy [DecidableEq κ] (order : StrictOrder κ) (key : α → κ) (values : List α)
    (own : κ) :
    (sortBy key values).filter (fun value => key value = own) =
      values.filter fun value => key value = own := by
  have alike : (values.filter fun value => key value = own).Pairwise fun left right =>
      decide (¬ key right < key left) = true := by
    apply List.pairwise_of_forall_mem_list
    intro left member right member'
    have equal : key left = key right := by
      rw [of_decide_eq_true (List.mem_filter.mp member).2,
        of_decide_eq_true (List.mem_filter.mp member').2]
    simpa [equal] using order.irreflexive (key right)
  have inside : (values.filter fun value => key value = own).Sublist (sortBy key values) :=
    List.sublist_mergeSort (comparison_trans order key) (comparison_total order key) alike
      List.filter_sublist
  have kept := inside.filter fun value => key value = own
  rw [List.filter_filter] at kept
  simp only [Bool.and_self] at kept
  exact (kept.eq_of_length ((List.mergeSort_perm values _).filter _).length_eq.symm).symm

theorem sortBy_eq_of_perm (order : StrictOrder κ) (key : α → κ) {values others : List α}
    (distinct : (values.map key).Nodup) (same : values.Perm others) :
    sortBy key values = sortBy key others := by
  have arranged : (sortBy key values).Perm (sortBy key others) :=
    ((List.mergeSort_perm values _).trans same).trans (List.mergeSort_perm others _).symm
  refine arranged.eq_of_pairwise ?_ (pairwise_sortBy order key values)
    (pairwise_sortBy order key others)
  intro left right member member' above below
  have equal := order.connected _ _ below above
  rw [mem_sortBy] at member member'
  exact List.inj_on_of_nodup_map distinct member (same.mem_iff.mpr member') equal

theorem pairwise_lt_sortBy (order : StrictOrder κ) (key : α → κ) {values : List α}
    (distinct : (values.map key).Nodup) :
    (sortBy key values).Pairwise fun left right => key left < key right := by
  have apart : (sortBy key values).Pairwise fun left right => key left ≠ key right := by
    rw [← List.pairwise_map (f := key) (R := (· ≠ ·))]
    exact (((List.mergeSort_perm values _).map key).nodup_iff).mpr distinct
  refine (apart.and (pairwise_sortBy order key values)).imp ?_
  intro left right both
  by_contra above
  exact both.1 (order.connected _ _ above both.2)

theorem sortBy_of_perm (order : StrictOrder κ) {values ordered : List κ}
    (ascends : ordered.Pairwise fun left right => left < right) (same : values.Perm ordered) :
    sortBy (fun value => value) values = ordered := by
  have distinct : (values.map fun value => value).Nodup := by
    rw [List.map_id']
    exact same.nodup_iff.mpr (order.nodup_of_ascending ascends)
  rw [sortBy_eq_of_perm order (fun value => value) distinct same]
  exact sortBy_of_ascending order (fun value => value) ascends

end Sorting

/-! ## Runs of equal keys -/

theorem dropRepeats_keeps {α κ : Type} [DecidableEq κ] (key : α → κ) (values : List α) :
    (∀ value ∈ dropRepeats key values, value ∈ values) ∧
      ∀ value ∈ values, ∃ kept ∈ dropRepeats key values, key kept = key value := by
  fun_induction dropRepeats key values with
  | case1 => simp
  | case2 value => simp
  | case3 value next rest same ih =>
      obtain ⟨sound, complete⟩ := ih
      refine ⟨?_, ?_⟩
      · intro kept member
        rcases List.mem_cons.mp (sound kept member) with rfl | later
        · exact List.mem_cons_self
        · exact List.mem_cons_of_mem _ (List.mem_cons_of_mem _ later)
      · intro other member
        rcases List.mem_cons.mp member with rfl | rest'
        · exact complete _ List.mem_cons_self
        · rcases List.mem_cons.mp rest' with rfl | later
          · obtain ⟨kept, present, equal⟩ := complete value List.mem_cons_self
            exact ⟨kept, present, equal.trans same⟩
          · exact complete other (List.mem_cons_of_mem _ later)
  | case4 value next rest different ih =>
      obtain ⟨sound, complete⟩ := ih
      refine ⟨?_, ?_⟩
      · intro kept member
        rcases List.mem_cons.mp member with rfl | later
        · exact List.mem_cons_self
        · exact List.mem_cons_of_mem _ (sound kept later)
      · intro other member
        rcases List.mem_cons.mp member with rfl | later
        · exact ⟨other, List.mem_cons_self, rfl⟩
        · obtain ⟨kept, present, equal⟩ := complete other later
          exact ⟨kept, List.mem_cons_of_mem _ present, equal⟩

theorem dropRepeats_sortBy_keeps {α κ : Type} [DecidableEq κ] [LT κ] [DecidableLT κ]
    (key : α → κ) (values : List α) :
    (∀ value ∈ dropRepeats key (sortBy key values), value ∈ values) ∧
      ∀ value ∈ values, ∃ kept ∈ dropRepeats key (sortBy key values), key kept = key value := by
  simpa only [mem_sortBy] using dropRepeats_keeps key (sortBy key values)

section Repeats

variable {α κ : Type} [DecidableEq κ] [LT κ] (key : α → κ) {values : List α}

theorem pairwise_dropRepeats (order : StrictOrder κ)
    (ascends : values.Pairwise fun left right => ¬ key right < key left) :
    (dropRepeats key values).Pairwise fun left right => key left < key right := by
  fun_induction dropRepeats key values with
  | case1 => exact .nil
  | case2 value => exact List.pairwise_singleton _ value
  | case3 value next rest same ih =>
      apply ih
      exact ascends.sublist (.cons_cons value (List.sublist_cons_self next rest))
  | case4 value next rest different ih =>
      obtain ⟨front, tail⟩ := List.pairwise_cons.mp ascends
      refine List.pairwise_cons.mpr ⟨?_, ih tail⟩
      intro kept member
      have present := (dropRepeats_keeps key (next :: rest)).1 kept member
      have first : key value < key next := by
        by_contra above
        exact different (order.connected _ _ above (front next List.mem_cons_self))
      rcases List.mem_cons.mp present with rfl | later
      · exact first
      · by_contra above
        have between := (List.pairwise_cons.mp tail).1 kept later
        exact order.not_lt_trans between above first

/-- What is left for a key is the first value that has it. -/
theorem find?_of_mem_dropRepeats (order : StrictOrder κ)
    (ascends : values.Pairwise fun left right => ¬ key right < key left) {kept : α}
    (member : kept ∈ dropRepeats key values) :
    values.find? (fun value => key value = key kept) = some kept := by
  fun_induction dropRepeats key values with
  | case1 => cases member
  | case2 value =>
      obtain rfl := List.mem_singleton.mp member
      simp
  | case3 value next rest same ih =>
      have found := ih (ascends.sublist (.cons_cons value (List.sublist_cons_self next rest))) member
      rw [List.find?_cons] at found ⊢
      by_cases own : key value = key kept
      · simpa [own] using found
      · have skipped : key next ≠ key kept := same ▸ own
        simpa [own, skipped] using found
  | case4 value next rest different ih =>
      obtain ⟨-, tail⟩ := List.pairwise_cons.mp ascends
      have strictly := pairwise_dropRepeats key order ascends
      rw [dropRepeats, if_neg different] at strictly
      rcases List.mem_cons.mp member with rfl | later
      · simp
      · have above := (List.pairwise_cons.mp strictly).1 kept later
        have apart : key value ≠ key kept := by
          intro equal
          rw [equal] at above
          exact order.irreflexive _ above
        rw [List.find?_cons]
        simpa [apart] using ih tail later

end Repeats

theorem eq_or_of_find? {α : Type} {relation : α → α → Prop} {values : List α} {test : α → Bool}
    {first value : α} (ordered : values.Pairwise relation)
    (found : values.find? test = some first) (member : value ∈ values)
    (passes : test value = true) : value = first ∨ relation first value := by
  obtain ⟨-, before, after, rfl, failed⟩ := List.find?_eq_some_iff_append.mp found
  rcases List.mem_append.mp member with early | late
  · simpa [passes] using failed value early
  · rcases List.mem_cons.mp late with rfl | behind
    · exact .inl rfl
    · have tail := (List.pairwise_append.mp ordered).2.1
      exact .inr ((List.pairwise_cons.mp tail).1 value behind)

end RoleGrants
