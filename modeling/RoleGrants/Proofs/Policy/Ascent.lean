import Mathlib.Data.Finset.Card
import Mathlib.Logic.Relation
import RoleGrants.Policy.Gather
import RoleGrants.Proofs.Ordering
import RoleGrants.Proofs.Store.Rows

/-! # The way up, round by round

An `Ascent` is what is known and the menus that are to be looked at next.  A round makes
known whatever these menus name, and asks for those parents that nothing has named so
far.  No id is asked for once it is known, so that the parents that are still unknown
become fewer with each round that asks for something (`unknownParents_next`).  Hence gathering
comes to an answer on every store, whatever its menus name, and the keys in it are those
of the menus that some round makes known (`exists_resourcesOf`). -/

set_option autoImplicit false

namespace RoleGrants

def MenuRef.Names (menu : MenuRef) (id : String) : Prop :=
  id ∈ ancestorIds menu.parentPath ∨ menu.parentId = id ∧ id ≠ ""

namespace Gather

/-! ## One menu after another -/

theorem mem_visit_known (known wanted : List String) (menu : MenuRef) (id : String) :
    id ∈ (visit known wanted menu).1 ↔ menu.Names id ∨ id ∈ known := by
  have seen : id ∈ insertAll (ancestorIds menu.parentPath) known ↔
      id ∈ ancestorIds menu.parentPath ∨ id ∈ known :=
    text_strictOrder.mem_insertAll _ _ id
  rw [visit, MenuRef.Names]
  split
  next fresh =>
    rw [mem_insertNew text_strictOrder.connected, seen]
    constructor
    · rintro (rfl | named | old)
      · exact .inl (.inr ⟨rfl, fresh.1⟩)
      · exact .inl (.inl named)
      · exact .inr old
    · rintro ((named | ⟨rfl, _⟩) | old)
      · exact .inr (.inl named)
      · exact .inl rfl
      · exact .inr (.inr old)
  next stale =>
    rw [seen]
    constructor
    · rintro (named | old)
      · exact .inl (.inl named)
      · exact .inr old
    · rintro ((named | ⟨rfl, parent⟩) | old)
      · exact .inl named
      · by_contra new
        have apart := not_or.mp new
        have unseen : menu.parentId ∉ insertAll (ancestorIds menu.parentPath) known :=
          fun member => new ((text_strictOrder.mem_insertAll _ _ _).mp member)
        exact stale ⟨parent, by simpa using apart.1, by simpa using unseen⟩
      · exact .inr old

theorem visit_wanted (known wanted : List String) (menu : MenuRef) :
    (visit known wanted menu).2 =
      if menu.parentId ≠ "" ∧ menu.parentId ∉ ancestorIds menu.parentPath ∧
          menu.parentId ∉ known then wanted ++ [menu.parentId] else wanted := by
  have seen : menu.parentId ∈ insertAll (ancestorIds menu.parentPath) known ↔
      menu.parentId ∈ ancestorIds menu.parentPath ∨ menu.parentId ∈ known :=
    text_strictOrder.mem_insertAll _ _ _
  rw [visit]
  by_cases fresh : menu.parentId ≠ "" ∧ menu.parentId ∉ ancestorIds menu.parentPath ∧
      menu.parentId ∉ known
  · rw [if_pos fresh, if_pos]
    have unseen : menu.parentId ∉ insertAll (ancestorIds menu.parentPath) known :=
      fun member => (seen.mp member).elim fresh.2.1 fresh.2.2
    exact ⟨fresh.1, by simpa using fresh.2.1, by simpa using unseen⟩
  · rw [if_neg fresh, if_neg]
    rintro ⟨parent, unnamed, unseen⟩
    have apart : menu.parentId ∉ insertAll (ancestorIds menu.parentPath) known := by
      simpa using unseen
    exact fresh ⟨parent, by simpa using unnamed, fun old => apart (seen.mpr (.inr old))⟩

theorem visitAll_cons (known wanted : List String) (menu : MenuRef) (rest : List MenuRef) :
    visitAll known wanted (menu :: rest) =
      visitAll (visit known wanted menu).1 (visit known wanted menu).2 rest := rfl

theorem mem_visitAll_known (known wanted : List String) (menus : List MenuRef) (id : String) :
    id ∈ (visitAll known wanted menus).1 ↔ (∃ menu ∈ menus, menu.Names id) ∨ id ∈ known := by
  induction menus generalizing known wanted with
  | nil => simp [visitAll]
  | cons menu rest ih =>
      rw [visitAll_cons, ih, mem_visit_known]
      simp only [List.exists_mem_cons_iff]
      exact or_left_comm.trans or_assoc.symm

/-- Whatever is asked for was unknown, and is the parent of a menu that does not name it in its
path. -/
theorem of_mem_visitAll_wanted {known wanted : List String} {menus : List MenuRef} {id : String}
    (asked : id ∈ (visitAll known wanted menus).2) :
    id ∈ wanted ∨ id ∉ known ∧
      ∃ menu ∈ menus, menu.parentId = id ∧ id ≠ "" ∧ id ∉ ancestorIds menu.parentPath := by
  induction menus generalizing known wanted with
  | nil => exact .inl asked
  | cons menu rest ih =>
      rw [visitAll_cons] at asked
      rcases ih asked with before | ⟨unseen, other, member, own⟩
      · rw [visit_wanted] at before
        split at before
        next fresh =>
          rcases List.mem_append.mp before with old | last
          · exact .inl old
          · rw [List.mem_singleton] at last
            subst last
            exact .inr ⟨fresh.2.2, menu, List.mem_cons_self, rfl, fresh.1, fresh.2.1⟩
        · exact .inl before
      · refine .inr ⟨?_, other, List.mem_cons_of_mem _ member, own⟩
        exact fun old => unseen ((mem_visit_known known wanted menu id).mpr (.inr old))

theorem mem_visitAll_of_mem_wanted {wanted : List String} {id : String} (old : id ∈ wanted)
    (known : List String) (menus : List MenuRef) : id ∈ (visitAll known wanted menus).2 := by
  induction menus generalizing known wanted with
  | nil => exact old
  | cons menu rest ih =>
      rw [visitAll_cons]
      apply ih
      rw [visit_wanted]
      split
      · exact List.mem_append_left _ old
      · exact old

theorem visitAll_cases {known wanted : List String} {menus : List MenuRef} {id : String}
    (seen : id ∈ (visitAll known wanted menus).1) :
    id ∈ known ∨ id ∈ (visitAll known wanted menus).2 ∨
      ∃ menu ∈ menus, id ∈ ancestorIds menu.parentPath := by
  induction menus generalizing known wanted with
  | nil => exact .inl seen
  | cons menu rest ih =>
      rw [visitAll_cons] at seen ⊢
      rcases ih seen with before | asked | ⟨other, member, named⟩
      · by_cases old : id ∈ known
        · exact .inl old
        by_cases named : id ∈ ancestorIds menu.parentPath
        · exact .inr (.inr ⟨menu, List.mem_cons_self, named⟩)
        -- The parent, not yet known and not in the path: it is asked for here.
        rcases (mem_visit_known known wanted menu id).mp before with (path | ⟨rfl, parent⟩) | known'
        · exact absurd path named
        · refine .inr (.inl (mem_visitAll_of_mem_wanted ?_ _ rest))
          rw [visit_wanted, if_pos ⟨parent, named, old⟩]
          exact List.mem_append_right _ List.mem_cons_self
        · exact absurd known' old
      · exact .inr (.inl asked)
      · exact .inr (.inr ⟨other, List.mem_cons_of_mem _ member, named⟩)

end Gather

open Gather

/-- What is known, and the menus that are to be looked at. -/
structure Ascent where
  known : List String
  frontier : List MenuRef

namespace Ascent

def start (store : Store) (linked : List String) : Ascent :=
  let menus := ((linked.filterMap store.menus.get?).filter fun menu =>
    menu.status = .enabled).map Menu.ref
  ⟨ascending (menus.map MenuRef.id), menus⟩

def wanted (ascent : Ascent) : List String :=
  (visitAll ascent.known [] ascent.frontier).2

def next (store : Store) (ascent : Ascent) : Ascent :=
  ⟨(visitAll ascent.known [] ascent.frontier).1, store.menuRefs ascent.wanted⟩

def after (store : Store) : Nat → Ascent → Ascent
  | 0, ascent => ascent
  | rounds + 1, ascent => (after store rounds ascent).next store

/-- Some round makes the id known. -/
def Finds (store : Store) (ascent : Ascent) (id : String) : Prop :=
  ∃ rounds, id ∈ (ascent.after store rounds).known

variable {store : Store} {ascent : Ascent} {id : String}

theorem mem_start_frontier {linked : List String} {ref : MenuRef} :
    ref ∈ (start store linked).frontier ↔ ∃ id ∈ linked, ∃ menu,
      store.menus.get? id = some menu ∧ menu.status = .enabled ∧ menu.ref = ref := by
  simp only [start, List.mem_map, List.mem_filter, List.mem_filterMap, decide_eq_true_eq]
  constructor
  · rintro ⟨menu, ⟨⟨id, member, found⟩, enabled⟩, same⟩
    exact ⟨id, member, menu, found, enabled, same⟩
  · rintro ⟨id, member, menu, found, enabled, same⟩
    exact ⟨menu, ⟨⟨id, member, found⟩, enabled⟩, same⟩

theorem mem_start_known {linked : List String} :
    id ∈ (start store linked).known ↔ ∃ ref ∈ (start store linked).frontier, ref.id = id := by
  rw [start, text_strictOrder.mem_ascending, List.mem_map]

theorem mem_next_known :
    id ∈ (ascent.next store).known ↔
      (∃ menu ∈ ascent.frontier, menu.Names id) ∨ id ∈ ascent.known :=
  mem_visitAll_known ascent.known [] ascent.frontier id

theorem mem_next_frontier {ref : MenuRef} :
    ref ∈ (ascent.next store).frontier ↔ ∃ id ∈ ascent.wanted, ∃ menu,
      store.menus.get? id = some menu ∧ menu.ref = ref := by
  simp only [next, Store.menuRefs, List.mem_map, List.mem_filterMap]
  constructor
  · rintro ⟨menu, ⟨id, member, found⟩, same⟩
    exact ⟨id, member, menu, found, same⟩
  · rintro ⟨id, member, menu, found, same⟩
    exact ⟨menu, ⟨id, member, found⟩, same⟩

theorem of_mem_wanted (asked : id ∈ ascent.wanted) :
    id ∉ ascent.known ∧ ∃ menu ∈ ascent.frontier,
      menu.parentId = id ∧ id ≠ "" ∧ id ∉ ancestorIds menu.parentPath := by
  rcases of_mem_visitAll_wanted asked with old | fresh
  · cases old
  · exact fresh

theorem next_known_cases (seen : id ∈ (ascent.next store).known) :
    id ∈ ascent.known ∨ id ∈ ascent.wanted ∨
      ∃ menu ∈ ascent.frontier, id ∈ ancestorIds menu.parentPath :=
  visitAll_cases seen

theorem after_add (store : Store) (rounds more : Nat) (ascent : Ascent) :
    ascent.after store (rounds + more) = (ascent.after store rounds).after store more := by
  induction more with
  | zero => rfl
  | succ more ih =>
      rw [← Nat.add_assoc, after, ih]
      rfl

theorem known_of_le {fewer rounds : Nat} (le : fewer ≤ rounds)
    (known : id ∈ (ascent.after store fewer).known) : id ∈ (ascent.after store rounds).known := by
  induction le with
  | refl => exact known
  | step _ ih => exact mem_next_known.mpr (.inr ih)

theorem after_of_wanted_nil (store : Store) (ended : ascent.wanted = []) (rounds : Nat) :
    ascent.after store (rounds + 1) = ⟨(ascent.next store).known, []⟩ := by
  induction rounds with
  | zero =>
      change ascent.next store = _
      rw [next, ended]
      rfl
  | succ rounds ih =>
      rw [after, ih]
      rfl

theorem finds_iff_of_wanted_nil (ascent : Ascent) (rounds : Nat)
    (ended : (ascent.after store rounds).wanted = []) :
    ascent.Finds store id ↔ id ∈ (ascent.after store (rounds + 1)).known := by
  refine ⟨?_, fun known => ⟨rounds + 1, known⟩⟩
  rintro ⟨others, known⟩
  by_cases early : others ≤ rounds + 1
  · exact known_of_le early known
  · obtain ⟨more, rfl⟩ := Nat.exists_eq_add_of_le (Nat.le_of_not_le early)
    rw [Nat.add_assoc, Nat.add_comm 1 more, after_add, after_of_wanted_nil store ended] at known
    exact known

theorem finds_next : (ascent.next store).Finds store id ↔ ascent.Finds store id := by
  have shifted : ∀ rounds, (ascent.next store).after store rounds =
      ascent.after store (1 + rounds) := fun rounds => (after_add store 1 rounds ascent).symm
  constructor
  · rintro ⟨rounds, known⟩
    exact ⟨1 + rounds, by rwa [← shifted]⟩
  · rintro ⟨rounds, known⟩
    refine ⟨rounds, ?_⟩
    rw [shifted]
    exact known_of_le (Nat.le_add_left rounds 1) known

/-! ## The last round -/

/-- The menus to be looked at are stored. -/
def Stored (store : Store) (ascent : Ascent) : Prop :=
  ∀ ref ∈ ascent.frontier, ∃ menu ∈ store.menus.values, menu.ref = ref

theorem mem_values_of_found {menu : Menu} (found : store.menus.get? id = some menu) :
    menu ∈ store.menus.values :=
  List.mem_map.mpr ⟨_, (store.menus.mem_rows id menu).mpr found, rfl⟩

theorem stored_start (store : Store) (linked : List String) : (start store linked).Stored store := by
  intro ref member
  obtain ⟨id, _, menu, found, _, same⟩ := mem_start_frontier.mp member
  exact ⟨menu, mem_values_of_found found, same⟩

theorem stored_next (store : Store) (ascent : Ascent) : (ascent.next store).Stored store := by
  intro ref member
  obtain ⟨id, _, menu, found, same⟩ := mem_next_frontier.mp member
  exact ⟨menu, mem_values_of_found found, same⟩

def unknownParents (store : Store) (ascent : Ascent) : Finset String :=
  (store.menus.values.map Menu.parentId).toFinset.filter fun id => id ∉ ascent.known

theorem unknownParents_next (stored : ascent.Stored store) (asks : ascent.wanted ≠ []) :
    (unknownParents store (ascent.next store)).card < (unknownParents store ascent).card := by
  obtain ⟨id, asked⟩ := List.exists_mem_of_ne_nil _ asks
  obtain ⟨unknown, ref, member, parent, some_, _⟩ := of_mem_wanted asked
  obtain ⟨menu, present, same⟩ := stored ref member
  apply Finset.card_lt_card
  rw [Finset.ssubset_iff_of_subset]
  · refine ⟨id, ?_, ?_⟩
    · rw [unknownParents, Finset.mem_filter, List.mem_toFinset, List.mem_map]
      refine ⟨⟨menu, present, ?_⟩, unknown⟩
      rw [← parent, ← same]
      rfl
    · rw [unknownParents, Finset.mem_filter]
      rintro ⟨_, still⟩
      exact still (mem_next_known.mpr (.inl ⟨ref, member, .inr ⟨parent, some_⟩⟩))
  · intro other inside
    rw [unknownParents, Finset.mem_filter] at inside ⊢
    exact ⟨inside.1, fun known => inside.2 (mem_next_known.mpr (.inr known))⟩

theorem card_unknownParents_le (store : Store) (ascent : Ascent) :
    (unknownParents store ascent).card ≤ store.menus.size := by
  calc (unknownParents store ascent).card
      ≤ (store.menus.values.map Menu.parentId).toFinset.card := Finset.card_filter_le _ _
    _ ≤ (store.menus.values.map Menu.parentId).length := List.toFinset_card_le _
    _ = store.menus.size := by simp [Table.values, Table.size]

end Ascent

/-! ## What gathering answers -/

namespace Gather

theorem run_done (queries : Queries) (roleId : String) (fuel : Nat)
    (answer : Except StoreError (List Resource)) :
    run queries roleId fuel (.done answer) = answer := by
  cases fuel <;> rfl

theorem climb_eq (store : Store) (ascent : Ascent) :
    climb ascent.known ascent.frontier =
      if ascent.wanted = [] then .collect (ascent.next store).known
      else .parents (ascent.next store).known ascent.wanted := by
  rw [climb]
  split
  next seen same => simp [Ascent.wanted, Ascent.next, same]
  next seen wanted some_ same =>
    have asks : ascent.wanted ≠ [] := by
      rw [Ascent.wanted, same]
      exact some_
    rw [if_neg asks, Ascent.next, Ascent.wanted, same]

def Leads (queries : Queries) (roleId : String) : Gather → Gather → Prop :=
  Relation.ReflTransGen fun before after => after = before.advance queries roleId

/-- A round for each parent that is unknown, and one to collect, are enough. -/
theorem run_climb (store : Store) (roleId : String) (fuel : Nat) {ascent : Ascent}
    (stored : ascent.Stored store) (enough : (ascent.unknownParents store).card < fuel) :
    ∃ known, (∀ id, id ∈ known ↔ ascent.Finds store id) ∧
      Leads (Queries.ofStore store) roleId (climb ascent.known ascent.frontier)
        (.collect known) ∧
      run (Queries.ofStore store) roleId fuel (climb ascent.known ascent.frontier) =
        .ok (distinct (store.menuResources known)) := by
  induction fuel generalizing ascent with
  | zero => omega
  | succ fuel ih =>
      rw [climb_eq store ascent]
      split
      next ended =>
        refine ⟨(ascent.next store).known, ?_, .refl, run_done _ roleId fuel _⟩
        intro id
        exact (Ascent.finds_iff_of_wanted_nil ascent 0 ended).symm
      next asks =>
        have fewer := Ascent.unknownParents_next stored asks
        obtain ⟨known, found, leads, answer⟩ := ih (ascent.stored_next store) (by omega)
        exact ⟨known, fun id => (found id).trans Ascent.finds_next, leads.head rfl, answer⟩

theorem mem_keys_distinct (rows : List Resource) (key : List String) :
    key ∈ (distinct rows).map Resource.key ↔ key ∈ rows.map Resource.key := by
  obtain ⟨sound, complete⟩ := dropRepeats_sortBy_keeps Resource.key rows
  simp only [List.mem_map]
  constructor
  · rintro ⟨row, member, same⟩
    exact ⟨row, sound row member, same⟩
  · rintro ⟨row, member, same⟩
    obtain ⟨kept, present, equal⟩ := complete row member
    exact ⟨kept, present, equal.trans same⟩

theorem mem_keys_of_finds {store : Store} {ascent : Ascent} {known : List String}
    (found : ∀ id, id ∈ known ↔ ascent.Finds store id) (key : List String) :
    key ∈ (distinct (store.menuResources known)).map Resource.key ↔
      ∃ resource ∈ store.resources.values, resource.key = key ∧
        ascent.Finds store resource.menuId := by
  rw [mem_keys_distinct, List.mem_map]
  simp only [Store.menuResources, mem_sortBy, List.mem_filter, List.contains_iff_mem, found]
  constructor
  · rintro ⟨resource, ⟨present, finds⟩, same⟩
    exact ⟨resource, present, same, finds⟩
  · rintro ⟨resource, present, same, finds⟩
    exact ⟨resource, ⟨present, finds⟩, same⟩

end Gather

def Store.ascent (store : Store) (roleId : String) : Ascent :=
  .start store ((store.links.get? roleId).getD [])

theorem resourcesOf_cases (store : Store) (roleId : String) :
    (store.roleMenus roleId = [] ∧
        ({ memory := store } : StoreAccess).resourcesOf roleId = .ok []) ∨
      ∃ known, (∀ id, id ∈ known ↔ (store.ascent roleId).Finds store id) ∧
        Leads (Queries.ofStore store) roleId .linked (.collect known) ∧
        ({ memory := store } : StoreAccess).resourcesOf roleId =
          .ok (distinct (store.menuResources known)) := by
  have begun : ({ memory := store } : StoreAccess).resourcesOf roleId =
      run (Queries.ofStore store) roleId (store.menus.size + 3)
        (Gather.linked.advance (Queries.ofStore store) roleId) := rfl
  have asked : (Queries.ofStore store).roleMenus roleId = .ok (store.roleMenus roleId) := rfl
  have next : Leads (Queries.ofStore store) roleId .linked
      (Gather.linked.advance (Queries.ofStore store) roleId) := .single rfl
  rw [begun]
  revert next
  rw [Gather.advance, asked]
  split
  next error refused => cases refused
  next none_ =>
    intro _
    exact .inl ⟨Except.ok.inj none_, run_done _ roleId _ _⟩
  next menus _ some_ =>
    cases some_
    intro next
    have few := Ascent.card_unknownParents_le store (store.ascent roleId)
    obtain ⟨known, found, leads, answer⟩ := run_climb store roleId (store.menus.size + 3)
      (Ascent.stored_start store _) (Nat.lt_of_le_of_lt few (by omega))
    exact .inr ⟨known, found, next.trans leads, answer⟩

/-- On every store there is an answer: the rows of the menus that the way up finds. -/
theorem exists_resourcesOf (store : Store) (roleId : String) :
    ∃ resources, ({ memory := store } : StoreAccess).resourcesOf roleId = .ok resources ∧
      ∀ key, key ∈ resources.map Resource.key ↔
        ∃ resource ∈ store.resources.values, resource.key = key ∧
          (store.ascent roleId).Finds store resource.menuId := by
  rcases resourcesOf_cases store roleId with ⟨none_, answer⟩ | ⟨known, found, _, answer⟩
  · have empty : (store.ascent roleId).frontier = [] := none_
    have unasked : (store.ascent roleId).wanted = [] := by
      rw [Ascent.wanted, empty]
      rfl
    refine ⟨[], answer, ?_⟩
    intro key
    constructor
    · intro member
      cases member
    · rintro ⟨resource, _, _, finds⟩
      rw [Ascent.finds_iff_of_wanted_nil (store.ascent roleId) 0 unasked] at finds
      rcases Ascent.mem_next_known.mp finds with ⟨menu, member, _⟩ | known
      · rw [Ascent.after, empty] at member
        cases member
      · obtain ⟨menu, member, _⟩ := Ascent.mem_start_known.mp known
        change menu ∈ (store.ascent roleId).frontier at member
        rw [empty] at member
        cases member
  · exact ⟨_, answer, mem_keys_of_finds found⟩

end RoleGrants
