import RoleGrants.Proofs.Policy.Ascent

/-! # What the rounds ask for

A run of rounds is told by what is asked for between them, one list of ids for each query,
and by what is known in the end (`Gather.Ends`).  An id that is asked for is unknown up
to then and known from then on, and it is the parent of a menu that has been looked at: so
none is asked for again (`Ends.nodup`), and on a table of menus there are no more queries
than parents (`Ends.length_le_card`), however these lead round.

What is known in the end is what the menus that have been looked at name
(`Ends.mem_iff`), and names lead there from one of the first menus
(`Ends.leadsTo`). -/

set_option autoImplicit false

namespace RoleGrants

namespace Gather

/-- From here these ids are asked for, one query after the other, and then what is known is
collected. -/
inductive Ends (queries : Queries) (roleId : String) :
    Gather → List (List String) → List String → Prop
  | ended {known : List String} : Ends queries roleId (.collect known) [] known
  | asks {known wanted final : List String} {asked : List (List String)}
      (rest : Ends queries roleId (advance queries roleId (.parents known wanted)) asked final) :
      Ends queries roleId (.parents known wanted) (wanted :: asked) final

theorem nodup_visitAll_wanted {known wanted : List String} (menus : List MenuRef)
    (distinct : wanted.Nodup) (seen : ∀ id ∈ wanted, id ∈ known) :
    (visitAll known wanted menus).2.Nodup := by
  induction menus generalizing known wanted with
  | nil => exact distinct
  | cons menu rest ih =>
      have kept : ∀ id ∈ known, id ∈ (visit known wanted menu).1 :=
        fun id old => (mem_visit_known known wanted menu id).mpr (.inr old)
      rw [visitAll_cons]
      rw [visit_wanted]
      split
      next fresh =>
        obtain ⟨parent, _, unknown⟩ := fresh
        apply ih
        · rw [List.nodup_append]
          refine ⟨distinct, List.nodup_singleton _, ?_⟩
          intro id asked other last same
          rw [List.mem_singleton] at last
          exact unknown (last ▸ same ▸ seen id asked)
        · intro id member
          rcases List.mem_append.mp member with before | last
          · exact kept id (seen id before)
          · rw [List.mem_singleton] at last
            exact (mem_visit_known known wanted menu id).mpr
              (.inl (.inr ⟨last.symm, last ▸ parent⟩))
      next stale => exact ih distinct fun id member => kept id (seen id member)

end Gather

open Gather

namespace Ascent

theorem nodup_wanted (ascent : Ascent) : ascent.wanted.Nodup :=
  nodup_visitAll_wanted ascent.frontier List.nodup_nil nofun

theorem mem_next_known_of_mem_wanted (store : Store) {ascent : Ascent} {id : String}
    (asked : id ∈ ascent.wanted) : id ∈ (ascent.next store).known := by
  obtain ⟨_, menu, member, parent, some_, _⟩ := of_mem_wanted asked
  exact mem_next_known.mpr (.inl ⟨menu, member, .inr ⟨parent, some_⟩⟩)

end Ascent

namespace Gather

variable {store : Store} {roleId : String} {ascent : Ascent} {asked : List (List String)}
  {known : List String}

/-! ## One round more -/

theorem ends_nil : Ends (Queries.ofStore store) roleId
    (climb ascent.known ascent.frontier) [] known ↔
      ascent.wanted = [] ∧ known = (ascent.next store).known := by
  rw [climb_eq store]
  split
  next ended =>
    constructor
    · rintro ⟨⟩
      exact ⟨ended, rfl⟩
    · rintro ⟨_, rfl⟩
      exact .ended
  next asks =>
    constructor
    · nofun
    · rintro ⟨ended, _⟩
      exact absurd ended asks

theorem ends_cons {ids : List String} : Ends (Queries.ofStore store) roleId
    (climb ascent.known ascent.frontier) (ids :: asked) known ↔
      ids = ascent.wanted ∧ ids ≠ [] ∧ Ends (Queries.ofStore store) roleId
        (climb (ascent.next store).known (ascent.next store).frontier) asked known := by
  rw [climb_eq store]
  split
  next ended =>
    constructor
    · nofun
    · rintro ⟨same, asks, _⟩
      exact absurd (same.trans ended) asks
  next asks =>
    constructor
    · rintro ⟨⟩
      next rest => exact ⟨rfl, asks, rest⟩
    · rintro ⟨rfl, _, rest⟩
      exact .asks rest

/-- There is a last round on every table: with each round that asks for something a parent
becomes known. -/
theorem exists_ends_of_stored (roleId : String) (stored : ascent.Stored store) :
    ∃ asked known, Ends (Queries.ofStore store) roleId
      (climb ascent.known ascent.frontier) asked known := by
  induction count : (ascent.unknownParents store).card using Nat.strong_induction_on
    generalizing ascent with
  | _ count ih =>
      by_cases ended : ascent.wanted = []
      · exact ⟨[], _, ends_nil.mpr ⟨ended, rfl⟩⟩
      · have fewer := Ascent.unknownParents_next stored ended
        obtain ⟨asked, known, rest⟩ := ih _ (count ▸ fewer) (ascent.stored_next store) rfl
        exact ⟨_ :: asked, known, ends_cons.mpr ⟨rfl, ended, rest⟩⟩

theorem exists_ends (store : Store) (roleId : String) (ascent : Ascent) :
    ∃ asked known, Ends (Queries.ofStore store) roleId
      (climb ascent.known ascent.frontier) asked known := by
  by_cases ended : ascent.wanted = []
  · exact ⟨[], _, ends_nil.mpr ⟨ended, rfl⟩⟩
  · -- The first menus may be from elsewhere; what the table answers is stored.
    obtain ⟨asked, known, rest⟩ := exists_ends_of_stored roleId (ascent.stored_next store)
    exact ⟨_ :: asked, known, ends_cons.mpr ⟨rfl, ended, rest⟩⟩

namespace Ends

theorem run {fuel : Nat} {gather : Gather}
    (ends : Ends (Queries.ofStore store) roleId gather asked known)
    (enough : asked.length < fuel) :
    Gather.run (Queries.ofStore store) roleId fuel gather =
      .ok (distinct (store.menuResources known)) := by
  induction ends generalizing fuel with
  | ended =>
      obtain ⟨fuel, rfl⟩ := Nat.exists_eq_add_of_lt enough
      exact run_done _ roleId _ _
  | asks rest ih =>
      obtain ⟨fuel, rfl⟩ : ∃ less, fuel = less + 1 := Nat.exists_eq_add_one_of_ne_zero (by omega)
      exact ih (Nat.lt_of_succ_lt_succ enough)

section Climbed

variable (ends : Ends (Queries.ofStore store) roleId (climb ascent.known ascent.frontier)
  asked known)
include ends

/-! ## What is asked for -/

theorem notMem_of_asked {id : String} (member : id ∈ asked.flatten) : id ∉ ascent.known := by
  induction asked generalizing ascent with
  | nil => cases member
  | cons ids asked ih =>
      obtain ⟨rfl, _, rest⟩ := ends_cons.mp ends
      rcases List.mem_append.mp member with now | later
      · exact (Ascent.of_mem_wanted now).1
      · exact fun before => ih rest later (Ascent.mem_next_known.mpr (.inr before))

theorem nodup : asked.flatten.Nodup := by
  induction asked generalizing ascent with
  | nil => exact List.nodup_nil
  | cons ids asked ih =>
      obtain ⟨rfl, _, rest⟩ := ends_cons.mp ends
      rw [List.flatten_cons, List.nodup_append]
      refine ⟨ascent.nodup_wanted, ih rest, ?_⟩
      rintro id now _ later rfl
      exact rest.notMem_of_asked later (Ascent.mem_next_known_of_mem_wanted store now)

theorem exists_parent (stored : ascent.Stored store) {id : String} (member : id ∈ asked.flatten) :
    ∃ menu ∈ store.menus.values, menu.parentId = id := by
  induction asked generalizing ascent with
  | nil => cases member
  | cons ids asked ih =>
      obtain ⟨rfl, _, rest⟩ := ends_cons.mp ends
      rcases List.mem_append.mp member with now | later
      · obtain ⟨_, ref, looked, rfl, _, _⟩ := Ascent.of_mem_wanted now
        obtain ⟨menu, present, rfl⟩ := stored ref looked
        exact ⟨menu, present, rfl⟩
      · exact ih rest (ascent.stored_next store) later

theorem length_le_flatten : asked.length ≤ asked.flatten.length := by
  induction asked generalizing ascent with
  | nil => exact Nat.le_refl 0
  | cons ids asked ih =>
      obtain ⟨_, asks, rest⟩ := ends_cons.mp ends
      have more := List.length_pos_of_ne_nil asks
      have others := ih rest
      rw [List.flatten_cons, List.length_append, List.length_cons]
      omega

/-- There are no more queries than parents, and not more ids in all of them. -/
theorem length_le_card (stored : ascent.Stored store) :
    asked.length ≤ (store.menus.values.map Menu.parentId).toFinset.card := by
  have within : asked.flatten.toFinset ⊆ (store.menus.values.map Menu.parentId).toFinset := by
    intro id member
    rw [List.mem_toFinset] at member ⊢
    exact List.mem_map.mpr (ends.exists_parent stored member)
  calc asked.length
      ≤ asked.flatten.length := ends.length_le_flatten
    _ = asked.flatten.toFinset.card := (List.toFinset_card_of_nodup ends.nodup).symm
    _ ≤ (store.menus.values.map Menu.parentId).toFinset.card := Finset.card_le_card within

/-! ## What is known in the end -/

theorem mem_iff (id : String) :
    id ∈ known ↔ id ∈ ascent.known ∨
      ∃ menu ∈ ascent.frontier ++ asked.flatMap store.menuRefs, menu.Names id := by
  induction asked generalizing ascent with
  | nil =>
      obtain ⟨_, rfl⟩ := ends_nil.mp ends
      rw [Ascent.mem_next_known, or_comm]
      simp
  | cons ids asked ih =>
      obtain ⟨rfl, _, rest⟩ := ends_cons.mp ends
      have answer : (ascent.next store).frontier = store.menuRefs ascent.wanted := rfl
      rw [ih rest, Ascent.mem_next_known, answer, List.flatMap_cons]
      simp only [List.mem_append, or_and_right, exists_or]
      rw [or_comm (b := id ∈ ascent.known), or_assoc]

end Climbed
end Ends
end Gather

/-! ## Where names lead -/

namespace Store

variable {store : Store} {linked : List MenuRef} {id upper : String}

/-- The one id is that of a menu, in the table or in the list, that has the other as its parent or
in its path. -/
def Leads (store : Store) (linked : List MenuRef) (id upper : String) : Prop :=
  ∃ menu, (menu ∈ linked ∧ menu.id = id ∨
    ∃ row, store.menus.get? id = some row ∧ row.ref = menu) ∧ menu.Names upper

/-- Step by step, names lead to the id from one of the menus in the list. -/
def LeadsTo (store : Store) (linked : List MenuRef) (id : String) : Prop :=
  ∃ menu ∈ linked, Relation.ReflTransGen (store.Leads linked) menu.id id

theorem LeadsTo.step (led : store.LeadsTo linked id) (leads : store.Leads linked id upper) :
    store.LeadsTo linked upper := by
  obtain ⟨menu, member, path⟩ := led
  exact ⟨menu, member, path.tail leads⟩

end Store

structure Ascent.IsLed (store : Store) (linked : List MenuRef) (ascent : Ascent) : Prop where
  known : ∀ id ∈ ascent.known, store.LeadsTo linked id
  frontier : ∀ menu ∈ ascent.frontier, ∃ id, store.LeadsTo linked id ∧
    ∀ upper, menu.Names upper → store.Leads linked id upper

namespace Ascent.IsLed

variable {store : Store} {linked : List MenuRef} {ascent : Ascent}

theorem first (store : Store) (linked : List MenuRef) :
    IsLed store linked ⟨ascending (linked.map MenuRef.id), linked⟩ where
  known id member := by
    obtain ⟨menu, own, rfl⟩ := List.mem_map.mp ((text_strictOrder.mem_ascending _ id).mp member)
    exact ⟨menu, own, .refl⟩
  frontier menu member :=
    ⟨menu.id, ⟨menu, member, .refl⟩, fun _ named => ⟨menu, .inl ⟨member, rfl⟩, named⟩⟩

theorem next (led : ascent.IsLed store linked) : (ascent.next store).IsLed store linked := by
  have known : ∀ id ∈ (ascent.next store).known, store.LeadsTo linked id := by
    intro id member
    rcases mem_next_known.mp member with ⟨menu, looked, named⟩ | before
    · obtain ⟨below, reached, leads⟩ := led.frontier menu looked
      exact reached.step (leads id named)
    · exact led.known id before
  refine ⟨known, ?_⟩
  intro menu member
  obtain ⟨id, asked, row, found, same⟩ := mem_next_frontier.mp member
  refine ⟨id, known id (mem_next_known_of_mem_wanted store asked), ?_⟩
  exact fun upper named => ⟨menu, .inr ⟨row, found, same⟩, named⟩

end Ascent.IsLed

namespace Gather.Ends

variable {store : Store} {roleId : String} {ascent : Ascent} {asked : List (List String)}
  {known : List String}

theorem leadsTo {linked : List MenuRef}
    (ends : Ends (Queries.ofStore store) roleId (climb ascent.known ascent.frontier)
      asked known) (led : ascent.IsLed store linked) : ∀ id ∈ known, store.LeadsTo linked id := by
  induction asked generalizing ascent with
  | nil =>
      obtain ⟨_, rfl⟩ := ends_nil.mp ends
      exact led.next.known
  | cons ids asked ih => exact ih (ends_cons.mp ends).2.2 led.next

end Gather.Ends

/-! ## From any menus of any table -/

/-- The rounds that have something to look at: the first menus, or what a query answers. -/
def Store.rounds (store : Store) (linked : List MenuRef) (asked : List (List String)) : Nat :=
  (linked :: asked.map store.menuRefs).countP fun menus => !menus.isEmpty

/-- Whatever parents and paths the menus of a table name, from any of them the way up comes to an
end: no id is asked for twice, the rounds are at most one more than the distinct parents in the
table, and so much fuel is enough. -/
theorem rounds_end_on_every_table (store : Store) (roleId : String) {linked : List MenuRef}
    (taken : ∀ menu ∈ linked, ∃ row ∈ store.menus.values, row.ref = menu) :
    let parents := (store.menus.values.map Menu.parentId).toFinset
    let start := climb (ascending (linked.map MenuRef.id)) linked
    ∃ asked known, Ends (Queries.ofStore store) roleId start asked known ∧
      asked.flatten.Nodup ∧ store.rounds linked asked ≤ parents.card + 1 ∧
      ∀ fuel, parents.card + 1 ≤ fuel → Gather.run (Queries.ofStore store) roleId fuel start =
        .ok (distinct (store.menuResources known)) := by
  intro parents start
  have stored : (Ascent.mk (ascending (linked.map MenuRef.id)) linked).Stored store := taken
  obtain ⟨asked, known, ends⟩ := exists_ends_of_stored roleId stored
  have few := ends.length_le_card stored
  refine ⟨asked, known, ends, ends.nodup, ?_, ?_⟩
  · calc store.rounds linked asked
        ≤ (linked :: asked.map store.menuRefs).length := List.countP_le_length
      _ = asked.length + 1 := by simp
      _ ≤ parents.card + 1 := Nat.succ_le_succ few
  · intro fuel enough
    exact ends.run (Nat.lt_of_succ_le (Nat.le_trans (Nat.succ_le_succ few) enough))

def ringedMenus : Store where
  menus :=
    { rows := [("a", { id := "a", parentId := "b" }), ("b", { id := "b", parentId := "a" }),
        ("own", { id := "own", parentId := "own", parentPath := "own.own." }),
        ("lost", { id := "lost", parentId := "gone", parentPath := "..b.nowhere" })]
      distinct := by decide }

/-- The ring is left after the parents in it have been asked for once. -/
theorem ring_is_left :
    let linked : List MenuRef := [⟨"lost", "gone", "..b.nowhere"⟩, ⟨"a", "b", ""⟩, ⟨"a", "b", ""⟩]
    (∀ menu ∈ linked, ∃ row ∈ ringedMenus.menus.values, row.ref = menu) ∧
      ∃ asked known, Ends (Queries.ofStore ringedMenus) "r"
        (climb (ascending (linked.map MenuRef.id)) linked) asked known ∧
        asked.flatten.Nodup ∧ ringedMenus.rounds linked asked ≤ 5 := by
  intro linked
  have taken : ∀ menu ∈ linked, ∃ row ∈ ringedMenus.menus.values, row.ref = menu := by decide
  obtain ⟨asked, known, ends, once, few, _⟩ := rounds_end_on_every_table ringedMenus "r" taken
  have parents : (ringedMenus.menus.values.map Menu.parentId).toFinset.card = 4 := by decide
  exact ⟨taken, asked, known, ends, once, few.trans (Nat.succ_le_succ parents.le)⟩

/-- From any list of menus, and over any table, what is known in the end are the ids of the list
and whatever the menus of the list, and those that were asked for and found, have in their paths
or as their parents; and to all of it such names lead from the list. -/
theorem rounds_make_known_what_names_lead_to (store : Store) (roleId : String)
    (linked : List MenuRef) :
    ∃ asked known, Ends (Queries.ofStore store) roleId
        (climb (ascending (linked.map MenuRef.id)) linked) asked known ∧
      (∀ id ∈ known, store.LeadsTo linked id) ∧
      ∀ id, id ∈ known ↔ (∃ menu ∈ linked, menu.id = id) ∨
        ∃ menu ∈ linked ++ asked.flatMap store.menuRefs, menu.Names id := by
  obtain ⟨asked, known, ends⟩ :=
    exists_ends store roleId ⟨ascending (linked.map MenuRef.id), linked⟩
  refine ⟨asked, known, ends, ends.leadsTo (.first store linked), ?_⟩
  intro id
  rw [ends.mem_iff, text_strictOrder.mem_ascending, List.mem_map]

end RoleGrants
