import RoleGrants.Proofs.Policy.Inheritance
import RoleGrants.Proofs.Store.Integrity
import RoleGrants.Proofs.Text.Pieces

/-! # Paths of menus that have been put below one another

Where menus are only stored as roots, put below menus that are there, and deleted with
all that is below them, the path of a menu is the ids of its parents, the root first, with
a point behind each (`Lineage`).  What is read from the path are the pieces of these ids
(`Lineage.ancestorIds_eq`), and these are the ids themselves exactly if none of them is
empty or holds a point (`flatMap_ancestorIds_iff`): then a role is given what it reaches,
and otherwise a menu may count as above one that it has nothing to do with. -/

set_option autoImplicit false

namespace RoleGrants

/-! ## Ids in a path -/

/-- An id that a path gives back as it is. -/
def IsSegment (id : String) : Prop :=
  id ≠ "" ∧ '.' ∉ id.toList

instance (id : String) : Decidable (IsSegment id) :=
  inferInstanceAs (Decidable (id ≠ "" ∧ '.' ∉ id.toList))

theorem ancestorIds_append (front rest : String) :
    ancestorIds (front ++ "." ++ rest) = ancestorIds front ++ ancestorIds rest := by
  have characters : (front ++ "." ++ rest).toList = front.toList ++ '.' :: rest.toList := by simp
  rw [ancestorIds, Text.pieces, characters, Text.splitAt_append, List.map_append,
    List.filter_append]
  rfl

@[simp] theorem ancestorIds_empty : ancestorIds "" = [] := by
  simp [ancestorIds, Text.pieces, Text.splitAt]

theorem ancestorIds_append_point (front : String) :
    ancestorIds (front ++ ".") = ancestorIds front := by
  have appended := ancestorIds_append front ""
  rwa [String.append_empty, ancestorIds_empty, List.append_nil] at appended

theorem ancestorIds_of_isSegment {id : String} (segment : IsSegment id) :
    ancestorIds id = [id] := by
  rw [ancestorIds, Text.pieces, Text.splitAt_of_notMem segment.2]
  simp [segment.1]

theorem isSegment_of_mem {id path : String} (member : id ∈ ancestorIds path) : IsSegment id := by
  obtain ⟨inside, some_⟩ := List.mem_filter.mp member
  obtain ⟨piece, cut, rfl⟩ := List.mem_map.mp inside
  exact ⟨by simpa using some_, by simpa using Text.separator_notMem cut⟩

theorem flatMap_ancestorIds_iff (ids : List String) :
    ids.flatMap ancestorIds = ids ↔ ∀ id ∈ ids, IsSegment id := by
  constructor
  · intro same id member
    rw [← same] at member
    obtain ⟨other, _, piece⟩ := List.mem_flatMap.mp member
    exact isSegment_of_mem piece
  · intro segments
    induction ids with
    | nil => rfl
    | cons id rest ih =>
        rw [List.flatMap_cons, ancestorIds_of_isSegment (segments id List.mem_cons_self),
          ih fun other member => segments other (List.mem_cons_of_mem _ member)]
        rfl

theorem Text.startsWith_append {text start : String} (begins : Text.startsWith text start = true)
    (more : String) : Text.startsWith (text ++ more) start = true := by
  rw [Text.startsWith, List.isPrefixOf_iff_prefix] at begins ⊢
  rw [String.toList_append]
  exact begins.trans (List.prefix_append _ _)

theorem Text.startsWith_self (text : String) : Text.startsWith text text = true := by
  rw [Text.startsWith, List.isPrefixOf_iff_prefix]

namespace Store

/-! ## Stores that grow as trees -/

/-- Menus are stored as roots under new ids, put below others, or deleted; the other tables may
change as they like. -/
inductive Grows (store : Store) : Store → Prop
  | root (menu : Menu) (fresh : store.menus.contains menu.id = false)
      (orphan : menu.parentId = "") (unplaced : menu.parentPath = "") :
      Grows store (store.upsertMenu menu)
  | child (parentId : String) (menu : Menu) : Grows store (store.insertChildMenu parentId menu).1
  | deleted (menuId : String) : Grows store (store.deleteMenu menuId).1
  | elsewhere (after : Store) (menus : after.menus = store.menus) : Grows store after

/-- The ids of the menus that a menu has been put below, the root first. -/
inductive Lineage (store : Store) : Menu → List String → Prop
  | root {menu : Menu} (orphan : menu.parentId = "") (unplaced : menu.parentPath = "") :
      Lineage store menu []
  | child {menu parent : Menu} {ids : List String}
      (found : store.menus.get? menu.parentId = some parent)
      (placed : menu.parentPath = parent.childPath) (lineage : Lineage store parent ids) :
      Lineage store menu (ids ++ [menu.parentId])

namespace Lineage

variable {store after : Store} {menu : Menu} {ids : List String}

theorem ends_in_point (lineage : store.Lineage menu ids) :
    menu.parentPath = "" ∨ ∃ front, menu.parentPath = front ++ "." := by
  cases lineage with
  | root orphan unplaced => exact .inl unplaced
  | child found placed lineage => exact .inr ⟨_, placed⟩

theorem ancestorIds_childPath (lineage : store.Lineage menu ids) :
    ancestorIds menu.childPath = ancestorIds menu.parentPath ++ ancestorIds menu.id := by
  rw [Menu.childPath, ancestorIds_append_point]
  rcases lineage.ends_in_point with empty | ⟨front, ends⟩
  · rw [empty, String.empty_append, ancestorIds_empty, List.nil_append]
  · rw [ends, ancestorIds_append, ancestorIds_append_point]

theorem ancestorIds_eq (keyed : store.Keyed) (lineage : store.Lineage menu ids) :
    ancestorIds menu.parentPath = ids.flatMap ancestorIds := by
  induction lineage with
  | root orphan unplaced => rw [unplaced, ancestorIds_empty, List.flatMap_nil]
  | child found placed lineage ih =>
      rw [placed, lineage.ancestorIds_childPath, ih, keyed _ _ found, List.flatMap_append,
        List.flatMap_singleton]

theorem isSegment_of_mem (lineage : store.Lineage menu ids)
    (segments : ∀ id menu, store.menus.get? id = some menu →
      menu.parentPath = "" ∨ IsSegment menu.parentId)
    {id : String} (there : store.menus.get? id = some menu) : ∀ upper ∈ ids, IsSegment upper := by
  induction lineage generalizing id with
  | root orphan unplaced =>
      intro upper member
      cases member
  | child found placed lineage ih =>
      intro upper member
      rcases List.mem_append.mp member with higher | last
      · exact ih found upper higher
      · rw [List.mem_singleton] at last
        rw [last]
        refine (segments id _ there).resolve_left fun empty => ?_
        rw [placed, Menu.childPath] at empty
        simpa using congrArg String.toList empty

/-- Without an empty id the lineage is what is above the menu. -/
theorem above (lineage : store.Lineage menu ids) (named : "" ∉ ids) : store.Above menu ids := by
  induction lineage with
  | root orphan unplaced => exact .root orphan
  | child found placed lineage ih =>
      rw [List.mem_append, List.mem_singleton, not_or] at named
      exact .child (Ne.symm named.2) found (ih named.1)

theorem mono (lineage : store.Lineage menu ids)
    (kept : ∀ id row, store.menus.get? id = some row → after.menus.get? id = some row) :
    after.Lineage menu ids := by
  induction lineage with
  | root orphan unplaced => exact .root orphan unplaced
  | child found placed lineage ih => exact .child (kept _ _ found) placed ih

end Lineage

/-! ## Every menu has a lineage -/

structure Placed (store : Store) : Prop where
  keyed : store.Keyed
  lineage : ∀ id menu, store.menus.get? id = some menu → ∃ ids, store.Lineage menu ids

namespace Placed

variable {store after : Store}

theorem empty : Store.empty.Placed := by
  refine ⟨?_, ?_⟩
  · intro id menu found
    cases found
  · intro id menu found
    cases found

theorem of_same (placed : store.Placed) (menus : after.menus = store.menus) : after.Placed := by
  refine ⟨placed.keyed.of_same menus, ?_⟩
  intro id menu found
  rw [menus] at found
  obtain ⟨ids, lineage⟩ := placed.lineage id menu found
  exact ⟨ids, lineage.mono fun id row met => by rwa [menus]⟩

theorem insert (placed : store.Placed) (menu : Menu)
    (fresh : store.menus.contains menu.id = false)
    (own : ∃ ids, store.Lineage menu ids) : (store.upsertMenu menu).Placed := by
  have kept : ∀ id row, store.menus.get? id = some row →
      (store.upsertMenu menu).menus.get? id = some row := by
    intro id row found
    rw [upsertMenu, Table.get?_insert, if_neg]
    · exact found
    · rintro rfl
      rw [Table.contains_eq_isSome, found] at fresh
      cases fresh
  refine ⟨placed.keyed.insert menu rfl, ?_⟩
  intro id row found
  rw [upsertMenu, Table.get?_insert] at found
  split at found
  · cases found
    obtain ⟨ids, lineage⟩ := own
    exact ⟨ids, lineage.mono kept⟩
  · obtain ⟨ids, lineage⟩ := placed.lineage id row found
    exact ⟨ids, lineage.mono kept⟩

theorem insertChildMenu (placed : store.Placed) (parentId : String) (menu : Menu) :
    (store.insertChildMenu parentId menu).1.Placed := by
  rw [Store.insertChildMenu]
  split
  · exact placed
  next parent found =>
    split
    · exact placed
    next fresh =>
      refine placed.insert (childOf parent menu) (Bool.eq_false_iff.mpr fresh) ?_
      obtain ⟨ids, lineage⟩ := placed.lineage parentId parent found
      have here : store.menus.get? (childOf parent menu).parentId = some parent := by
        rw [childOf, placed.keyed parentId parent found]
        exact found
      exact ⟨ids ++ [parent.id], .child here rfl lineage⟩

theorem deleteMenu (placed : store.Placed) (menuId : String) :
    (store.deleteMenu menuId).1.Placed := by
  rw [Store.deleteMenu]
  split
  · exact placed
  next menu found =>
    have kept : ∀ {id row}, (store.dropMenus (store.subtree menuId menu)).menus.get? id =
        some row ↔ store.menus.get? id = some row ∧ id ∉ store.subtree menuId menu := by
      intro id row
      rw [dropMenus, Table.get?_filter, Option.filter_eq_some_iff]
      simp
    have stays : (store.dropMenus (store.subtree menuId menu)).Placed := by
      refine ⟨fun id row there => placed.keyed id row (kept.mp there).1, ?_⟩
      intro id row there
      obtain ⟨present, spared⟩ := kept.mp there
      obtain ⟨ids, lineage⟩ := placed.lineage id row present
      refine ⟨ids, ?_⟩
      clear there
      induction lineage generalizing id with
      | root orphan unplaced => exact .root orphan unplaced
      | @child row parent ids met path lineage ih =>
          -- A menu below one that goes has a path that begins with that of what is deleted.
          have upper : row.parentId ∉ store.subtree menuId menu := by
            rw [placed.keyed.mem_subtree_iff menuId menu met]
            rw [placed.keyed.mem_subtree_iff menuId menu present] at spared
            rintro (same | below)
            · apply spared
              rw [same, found] at met
              cases met
              rw [path]
              exact .inr (Text.startsWith_self _)
            · apply spared
              rw [path, Menu.childPath]
              exact .inr (Text.startsWith_append (Text.startsWith_append below _) _)
          exact .child (kept.mpr ⟨met, upper⟩) path (ih _ met upper)
    exact stays.of_same rfl

theorem grows (placed : store.Placed) (step : Grows store after) : after.Placed := by
  cases step with
  | root menu fresh orphan unplaced => exact placed.insert menu fresh ⟨[], .root orphan unplaced⟩
  | child parentId menu => exact placed.insertChildMenu parentId menu
  | deleted menuId => exact placed.deleteMenu menuId
  | elsewhere _ menus => exact placed.of_same menus

theorem of_grown (grown : Relation.ReflTransGen Grows Store.empty store) : store.Placed := by
  induction grown with
  | refl => exact Placed.empty
  | tail _ step ih => exact ih.grows step

/-- Where the ids of all parents are segments each path names exactly what is above its menu. -/
theorem rooted (placed : store.Placed)
    (segments : ∀ id menu, store.menus.get? id = some menu →
      menu.parentPath = "" ∨ IsSegment menu.parentId) : store.Rooted := by
  intro id menu found
  obtain ⟨ids, lineage⟩ := placed.lineage id menu found
  have all := lineage.isSegment_of_mem segments found
  refine ⟨ids, lineage.above fun empty => (all "" empty).1 rfl, .inr ?_⟩
  rw [lineage.ancestorIds_eq placed.keyed, (flatMap_ancestorIds_iff ids).mpr all]

end Placed
end Store

/-! ## What gathering makes of it -/

open Store

theorem Store.Rooted.exists_holding {store : Store} (rooted : store.Rooted) (keyed : store.Keyed)
    (roleId : String) :
    ∃ rows, ({ memory := store } : StoreAccess).resourcesOf roleId = .ok rows ∧
      Holds store ⟨roleId, rows⟩ :=
  rooted.pathsAgree.exists_holding keyed roleId

/-- In a store that has grown as a tree the path of each menu was made of the ids of its parents,
and it names their pieces.  These are the parents themselves, the root first, exactly if none
of their ids is empty or holds a point; if that is so of all menus that others are below, each
role is given what it reaches and nothing else. -/
theorem paths_name_the_parents_whose_ids_are_segments (store : Store)
    (grown : Relation.ReflTransGen Grows Store.empty store) :
    (∀ id menu, store.menus.get? id = some menu → ∃ ids, store.Lineage menu ids ∧
      ("" ∉ ids → store.Above menu ids) ∧
      ancestorIds menu.parentPath = ids.flatMap ancestorIds ∧
      (ancestorIds menu.parentPath = ids ↔ ∀ upper ∈ ids, IsSegment upper)) ∧
      ((∀ id menu, store.menus.get? id = some menu →
          menu.parentPath = "" ∨ IsSegment menu.parentId) →
        store.Rooted ∧ ∀ roleId, ∃ rows,
          ({ memory := store } : StoreAccess).resourcesOf roleId = .ok rows ∧
            Holds store ⟨roleId, rows⟩) := by
  have placed := Placed.of_grown grown
  refine ⟨?_, ?_⟩
  · intro id menu found
    obtain ⟨ids, lineage⟩ := placed.lineage id menu found
    have pieces := lineage.ancestorIds_eq placed.keyed
    refine ⟨ids, lineage, lineage.above, pieces, ?_⟩
    rw [pieces]
    exact flatMap_ancestorIds_iff ids
  · intro segments
    have rooted := placed.rooted segments
    exact ⟨rooted, rooted.exists_holding placed.keyed⟩

def sideBySide (upper : String) : Store :=
  let roots := (Store.empty.upsertMenu { id := "a" }).upsertMenu { id := upper }
  let tree := (roots.insertChildMenu upper { id := "c" }).1
  { tree with
    links := Table.empty.insert "r" ["c"]
    resources := Table.empty.insert "1" ⟨"1", "a", "GET", "/a"⟩ }

theorem grown_sideBySide {upper : String} (apart : upper ≠ "a") :
    Relation.ReflTransGen Grows Store.empty (sideBySide upper) := by
  have fresh : (Store.empty.upsertMenu { id := "a" }).menus.contains upper = false := by
    rw [Table.contains_eq_isSome, upsertMenu, Table.get?_insert, if_neg apart]
    rfl
  have first : Relation.ReflTransGen Grows Store.empty (Store.empty.upsertMenu { id := "a" }) :=
    .single (.root { id := "a" } rfl rfl rfl)
  have roots := first.tail (.root { id := upper } fresh rfl rfl)
  exact (roots.tail (.child upper { id := "c" })).tail (.elsewhere _ rfl)

/-- Ordinary ids come back from the path, and the role is not given what is beside its menu. -/
theorem path_names_the_root_above :
    (∃ menu ids, (sideBySide "b").menus.get? "c" = some menu ∧
      (sideBySide "b").Lineage menu ids ∧ ancestorIds menu.parentPath = ids) ∧
      ∃ rows, ({ memory := sideBySide "b" } : StoreAccess).resourcesOf "r" = .ok rows ∧
        Holds (sideBySide "b") ⟨"r", rows⟩ := by
  have segments : ∀ id menu, (sideBySide "b").menus.get? id = some menu →
      menu.parentPath = "" ∨ IsSegment menu.parentId := by
    have rows : ∀ row ∈ (sideBySide "b").menus.rows,
        row.2.parentPath = "" ∨ IsSegment row.2.parentId := by decide +kernel
    intro id menu found
    exact rows (id, menu) ((Table.mem_rows _ _ _).mpr found)
  obtain ⟨paths, given⟩ := paths_name_the_parents_whose_ids_are_segments (sideBySide "b")
    (grown_sideBySide (by decide))
  have found : (sideBySide "b").menus.get? "c" =
      some { id := "c", parentId := "b", parentPath := "b." } := by decide +kernel
  obtain ⟨ids, lineage, _, _, names⟩ := paths "c" _ found
  exact ⟨⟨_, ids, found, lineage, names.mpr (lineage.isSegment_of_mem segments found)⟩,
    (given segments).2 "r"⟩

/-- The id `a.b` holds a point: the path of the menu below it names `a` and `b` instead, and the
role is given the resource of a menu that it does not reach. -/
theorem point_in_an_id_names_another_menu :
    (¬ ∀ store, Relation.ReflTransGen Grows Store.empty store →
      ∀ id menu, store.menus.get? id = some menu →
        ∃ ids, store.Above menu ids ∧ ancestorIds menu.parentPath = ids) ∧
      ({ memory := sideBySide "a.b" } : StoreAccess).resourcesOf "r" =
        .ok [⟨"1", "a", "GET", "/a"⟩] ∧
      ¬ (sideBySide "a.b").Reaches "r" "a" := by
  have below : (sideBySide "a.b").menus.get? "c" =
      some { id := "c", parentId := "a.b", parentPath := "a.b." } := by decide +kernel
  have upper : (sideBySide "a.b").menus.get? "a.b" = some { id := "a.b" } := by decide +kernel
  refine ⟨?_, by decide +kernel, ?_⟩
  · intro claimed
    obtain ⟨ids, above, named⟩ := claimed _ (grown_sideBySide (by decide)) "c" _ below
    have own : (sideBySide "a.b").Above
        { id := "c", parentId := "a.b", parentPath := "a.b." } ["a.b"] :=
      .child (by decide) upper (.root rfl)
    rw [own.unique above] at named
    exact absurd named (by decide +kernel)
  · -- From its only link the role comes to the two menus of one tree, and `a` is in the other.
    have onlyTree : ∀ id, (sideBySide "a.b").Reaches "r" id → id ∈ ["c", "a.b"] := by
      intro id reached
      induction reached with
      | linked links member =>
          have only : (sideBySide "a.b").links.get? "r" = some ["c"] := by decide +kernel
          rw [only] at links
          cases links
          exact List.mem_append_left ["a.b"] member
      | parent _ found named ih =>
          rcases List.mem_pair.mp ih with rfl | rfl
          · rw [below] at found
            cases found
            exact List.mem_cons_of_mem _ List.mem_cons_self
          · rw [upper] at found
            cases found
            exact absurd rfl named
    intro reached
    exact absurd (onlyTree "a" reached) (by decide)

end RoleGrants
