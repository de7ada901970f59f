import RoleGrants.Proofs.Store.Integrity
import RoleGrants.Proofs.Store.Lineage

/-! # What is deleted with a menu

In a planted store (`Store.Planted`) ids are segments, parents end at roots, and each path is
made of the ids of the parents.  There one path begins with another only if the one list of ids
begins with the other (`startsWith_pathOf_iff`), so that the menus whose paths begin with the
path below a menu are just those that it is above (`Planted.mem_subtree_iff`).  They go with
it, and with them their resources and the links to them; all other rows stay, and the store is
planted still (`deleting_a_menu_takes_what_is_below_it`). -/

set_option autoImplicit false

namespace RoleGrants

/-! ## Paths made of ids -/

def pathOf (ids : List String) : String :=
  String.join (ids.map fun id => id ++ ".")

theorem toList_pathOf (ids : List String) :
    (pathOf ids).toList = (ids.map String.toList).flatMap fun piece => piece ++ ['.'] := by
  simp [pathOf, List.flatMap_map]

theorem pathOf_append_singleton (ids : List String) (id : String) :
    pathOf (ids ++ [id]) = pathOf ids ++ id ++ "." := by
  rw [← String.toList_inj]
  simp [toList_pathOf]

theorem startsWith_pathOf_iff {first ids : List String} (segments : ∀ id ∈ first, IsSegment id)
    (others : ∀ id ∈ ids, IsSegment id) :
    Text.startsWith (pathOf ids) (pathOf first) = true ↔ first <+: ids := by
  have clear : ∀ {ids : List String}, (∀ id ∈ ids, IsSegment id) →
      ∀ piece ∈ ids.map String.toList, '.' ∉ piece := by
    intro ids segments piece member
    obtain ⟨id, own, rfl⟩ := List.mem_map.mp member
    exact (segments id own).2
  have injective : Function.Injective String.toList := fun _ _ => String.toList_inj.mp
  rw [Text.startsWith, List.isPrefixOf_iff_prefix, toList_pathOf, toList_pathOf,
    Text.flatMap_prefix_iff '.' (clear segments) (clear others),
    List.prefix_map_iff_of_injective injective]

namespace Store

variable {store after : Store} {menu : Menu} {ids : List String} {id upper menuId : String}

theorem Above.exists_found (above : store.Above menu ids) :
    ∀ upper ∈ ids, ∃ parent, store.menus.get? upper = some parent := by
  induction above with
  | root orphan =>
      intro upper member
      cases member
  | child named found above ih =>
      intro upper member
      rcases List.mem_append.mp member with higher | last
      · exact ih upper higher
      · rw [List.mem_singleton.mp last]
        exact ⟨_, found⟩

/-! ## Planted stores -/

/-- Menus stand under their own ids, which a path gives back; their parents are stored and end at
roots; and the path of each is made of the ids above it. -/
structure Planted (store : Store) : Prop where
  keyed : store.Keyed
  segments : ∀ id menu, store.menus.get? id = some menu → IsSegment id
  stored : ∀ id upper, store.HasParent id upper → store.menus.contains upper = true
  acyclic : ∀ id, ¬ store.IsBelow id id
  paths : ∀ id menu ids, store.menus.get? id = some menu → store.Above menu ids →
    menu.parentPath = pathOf ids

namespace Planted

theorem isSegment_of_above (planted : store.Planted) (above : store.Above menu ids) :
    ∀ upper ∈ ids, IsSegment upper := by
  intro upper member
  obtain ⟨parent, found⟩ := above.exists_found upper member
  exact planted.segments upper parent found

theorem childPath_eq (planted : store.Planted) (found : store.menus.get? menuId = some menu)
    (above : store.Above menu ids) : menu.childPath = pathOf (ids ++ [menuId]) := by
  rw [Menu.childPath, planted.paths menuId menu ids found above, planted.keyed menuId menu found,
    pathOf_append_singleton]

/-- A path begins with the path below a menu exactly if it is that of a menu below. -/
theorem startsWith_childPath_iff (planted : store.Planted)
    (found : store.menus.get? menuId = some menu) {row : Menu}
    (there : store.menus.get? id = some row) :
    Text.startsWith row.parentPath menu.childPath = true ↔ store.IsBelow id menuId := by
  obtain ⟨uppers, higher⟩ := exists_above planted.acyclic planted.stored found
  obtain ⟨ids, above⟩ := exists_above planted.acyclic planted.stored there
  have own : ∀ upper ∈ uppers ++ [menuId], IsSegment upper := by
    intro upper member
    rcases List.mem_append.mp member with front | last
    · exact planted.isSegment_of_above higher upper front
    · rw [List.mem_singleton.mp last]
      exact planted.segments menuId menu found
  -- Both paths are made of ids, so the texts begin alike only where the lists of ids do.
  rw [planted.paths id row ids there above, planted.childPath_eq found higher,
    startsWith_pathOf_iff own (planted.isSegment_of_above above), ← above.mem_iff there]
  constructor
  · intro begins
    exact begins.subset (List.mem_append_right uppers (List.mem_singleton_self menuId))
  · intro member
    exact above.prefix_of_mem member found higher

theorem mem_subtree_iff (planted : store.Planted) (found : store.menus.get? menuId = some menu) :
    id ∈ store.subtree menuId menu ↔ store.IsWithin id menuId := by
  rw [isWithin_iff]
  by_cases there : ∃ row, store.menus.get? id = some row
  · obtain ⟨row, there⟩ := there
    rw [planted.keyed.mem_subtree_iff menuId menu there,
      planted.startsWith_childPath_iff found there]
  · refine iff_of_false ?_ ?_
    · intro member
      obtain ⟨row, found, _⟩ := (planted.keyed.mem_subtree menuId menu id).mp member
      exact there ⟨row, found⟩
    · rintro (rfl | below)
      · exact there ⟨menu, found⟩
      · exact there below.exists_found

theorem of_fewer (planted : store.Planted)
    (kept : ∀ id menu, after.menus.get? id = some menu → store.menus.get? id = some menu)
    (closed : ∀ id upper, after.HasParent id upper → after.menus.contains upper = true) :
    after.Planted where
  keyed id menu found := planted.keyed id menu (kept id menu found)
  segments id menu found := planted.segments id menu (kept id menu found)
  stored := closed
  acyclic id below := planted.acyclic id (below.mono kept)
  paths id menu ids found above := planted.paths id menu ids (kept id menu found) (above.mono kept)

end Planted

theorem Lineage.parentPath_eq (keyed : store.Keyed) (lineage : store.Lineage menu ids) :
    menu.parentPath = pathOf ids := by
  induction lineage with
  | root orphan unplaced => exact unplaced
  | child found placed lineage ih =>
      rw [placed, Menu.childPath, ih, keyed _ _ found, pathOf_append_singleton]

theorem Placed.planted (placed : store.Placed)
    (segments : ∀ id menu, store.menus.get? id = some menu → IsSegment id) : store.Planted := by
  have parents : ∀ id menu, store.menus.get? id = some menu →
      menu.parentPath = "" ∨ IsSegment menu.parentId := by
    intro id menu found
    obtain ⟨ids, lineage⟩ := placed.lineage id menu found
    cases lineage with
    | root orphan unplaced => exact .inl unplaced
    | child there _ _ => exact .inr (segments _ _ there)
  have upward : ∀ id menu, store.menus.get? id = some menu →
      ∃ ids, store.Lineage menu ids ∧ store.Above menu ids := by
    intro id menu found
    obtain ⟨ids, lineage⟩ := placed.lineage id menu found
    have named := lineage.isSegment_of_mem parents found
    exact ⟨ids, lineage, lineage.above fun empty => (named "" empty).1 rfl⟩
  refine ⟨placed.keyed, segments, ?_, ?_, ?_⟩
  · rintro id upper ⟨menu, found, rfl, named⟩
    obtain ⟨ids, lineage, _⟩ := upward id menu found
    cases lineage with
    | root orphan unplaced => exact absurd orphan named
    | child there placed lineage =>
        rw [Table.contains_eq_isSome, there]
        rfl
  · intro id below
    obtain ⟨menu, found⟩ := below.exists_found
    obtain ⟨ids, _, above⟩ := upward id menu found
    exact above.not_isBelow_self found below
  · intro id menu ids found above
    obtain ⟨others, lineage, higher⟩ := upward id menu found
    rw [higher.unique above]
    exact lineage.parentPath_eq placed.keyed

/-! ## Deleting -/

/-- The doomed menus are gone with their resources and the links to them; all other rows are as
they were. -/
structure Without (store after : Store) (doomed : List String) : Prop where
  roles : after.roles = store.roles
  menus : ∀ id, after.menus.get? id = if id ∈ doomed then none else store.menus.get? id
  resources : ∀ id, after.resources.get? id =
    (store.resources.get? id).filter fun resource => resource.menuId ∉ doomed
  links : ∀ roleId, after.links.get? roleId =
    (store.links.get? roleId).map fun linked => linked.filter fun id => id ∉ doomed

theorem without_drop (store : Store) (doomed : List String) :
    store.Without (((store.dropMenus doomed).dropMenuResources doomed).dropMenuLinks doomed)
      doomed where
  roles := rfl
  menus id := by
    simp only [dropMenuLinks, dropMenuResources, dropMenus, Table.get?_filter]
    cases store.menus.get? id with
    | none => simp
    | some menu => by_cases gone : id ∈ doomed <;> simp [gone]
  resources id := by
    simp only [dropMenuLinks, dropMenuResources, dropMenus, Table.get?_filter]
    simp
  links roleId := by
    simp only [dropMenuLinks, dropMenuResources, dropMenus, Table.get?_mapValues]
    simp

theorem Planted.without (planted : store.Planted) {doomed : List String}
    (gone : store.Without after doomed)
    (closed : ∀ id upper, store.HasParent id upper → upper ∈ doomed → id ∈ doomed) :
    after.Planted := by
  have kept : ∀ {id menu}, after.menus.get? id = some menu ↔
      id ∉ doomed ∧ store.menus.get? id = some menu := by
    intro id menu
    rw [gone.menus]
    split <;> simp_all
  refine planted.of_fewer (fun id menu there => (kept.mp there).2) ?_
  rintro id upper ⟨menu, there, own⟩
  obtain ⟨spared, found⟩ := kept.mp there
  have step : store.HasParent id upper := ⟨menu, found, own⟩
  have present := planted.stored id upper step
  rw [Table.contains_eq_isSome, Option.isSome_iff_exists] at present ⊢
  obtain ⟨parent, present⟩ := present
  exact ⟨parent, kept.mpr ⟨fun above => spared (closed id upper step above), present⟩⟩

end Store

open Store

/-- From a planted store a menu takes with it what is below it at any depth, the resources and
the links of these menus, and nothing else; the answer is how many menus have gone, and what
stays is planted.  Under an id that is not stored nothing happens. -/
theorem deleting_a_menu_takes_what_is_below_it {store : Store} (planted : store.Planted)
    (menuId : String) :
    (∀ menu, store.menus.get? menuId = some menu → ∃ (after : Store) (doomed : List String),
      store.deleteMenu menuId = (after, .ok doomed.length) ∧
        doomed.Nodup ∧ (∀ id, id ∈ doomed ↔ store.IsWithin id menuId) ∧
        store.Without after doomed ∧ after.menus.size + doomed.length = store.menus.size ∧
        after.Planted) ∧
      (store.menus.get? menuId = none →
        store.deleteMenu menuId = (store, .error (noMenu menuId))) := by
  refine ⟨?_, ?_⟩
  · intro menu found
    have within : ∀ id, id ∈ store.subtree menuId menu ↔ store.IsWithin id menuId :=
      fun _ => planted.mem_subtree_iff found
    have distinct : (store.subtree menuId menu).Nodup :=
      (text_strictOrder.pairwise_ascending _).imp fun above => above.ne
    have gone := store.without_drop (store.subtree menuId menu)
    refine ⟨_, store.subtree menuId menu, ?_, distinct, within, gone, ?_, ?_⟩
    · rw [deleteMenu, found]
    · apply store.menus.size_filter_notMem distinct
      intro id member
      obtain ⟨row, there, _⟩ := (planted.keyed.mem_subtree menuId menu id).mp member
      rw [Table.contains_eq_isSome, there]
      rfl
    · refine planted.without gone ?_
      intro id upper step above
      rw [within] at above ⊢
      exact .head step above
  · intro unknown
    rw [deleteMenu, unknown]

def twoTrees : Store :=
  let roots := (Store.empty.upsertMenu { id := "m1" }).upsertMenu { id := "m10" }
  let first := ((roots.insertChildMenu "m1" { id := "m2" }).1.insertChildMenu "m2" { id := "m3" }).1
  let both := (first.insertChildMenu "m10" { id := "m4" }).1
  { both with
    links := Table.empty.insert "r" ["m3", "m4"]
    resources := (Table.empty.insert "1" ⟨"1", "m3", "GET", "/a"⟩).insert "2"
      ⟨"2", "m4", "GET", "/b"⟩ }

theorem planted_twoTrees : twoTrees.Planted := by
  have roots : Relation.ReflTransGen Grows Store.empty
      ((Store.empty.upsertMenu { id := "m1" }).upsertMenu { id := "m10" }) :=
    (Relation.ReflTransGen.single (.root { id := "m1" } rfl rfl rfl)).tail
      (.root { id := "m10" } (by decide) rfl rfl)
  have grown : Relation.ReflTransGen Grows Store.empty twoTrees :=
    (((roots.tail (.child "m1" { id := "m2" })).tail (.child "m2" { id := "m3" })).tail
      (.child "m10" { id := "m4" })).tail (.elsewhere _ rfl)
  apply (Placed.of_grown grown).planted
  have ids : ∀ row ∈ twoTrees.menus.rows, IsSegment row.1 := by decide +kernel
  intro id menu found
  exact ids (id, menu) ((Table.mem_rows _ _ _).mpr found)

/-- The three menus of the one tree go, and the other one stays with its resource and its link. -/
theorem tree_goes_and_the_other_stays :
    twoTrees.Planted ∧ ∃ after, twoTrees.deleteMenu "m1" = (after, .ok 3) ∧ after.Planted ∧
      after.menus.get? "m3" = none ∧ after.menus.get? "m4" = twoTrees.menus.get? "m4" ∧
      after.resources.get? "1" = none ∧
      after.resources.get? "2" = some ⟨"2", "m4", "GET", "/b"⟩ ∧
      after.links.get? "r" = some ["m4"] := by
  have found : twoTrees.menus.get? "m1" = some { id := "m1" } := by decide +kernel
  obtain ⟨after, doomed, deleted, _, within, gone, _, planted⟩ :=
    (deleting_a_menu_takes_what_is_below_it planted_twoTrees "m1").1 _ found
  have answer : (twoTrees.deleteMenu "m1").2 = .ok 3 := by decide +kernel
  have counted : (twoTrees.deleteMenu "m1").2 = .ok doomed.length := by rw [deleted]
  rw [← counted, answer] at deleted
  have inside : "m3" ∈ doomed := by
    have up : twoTrees.HasParent "m3" "m2" :=
      ⟨{ id := "m3", parentId := "m2", parentPath := "m1.m2." }, by decide +kernel, rfl, by decide⟩
    have higher : twoTrees.HasParent "m2" "m1" :=
      ⟨{ id := "m2", parentId := "m1", parentPath := "m1." }, by decide +kernel, rfl, by decide⟩
    exact (within "m3").mpr (.tail (.single up) higher)
  have outside : "m4" ∉ doomed := by
    have there : twoTrees.menus.get? "m4" =
        some { id := "m4", parentId := "m10", parentPath := "m10." } := by decide +kernel
    have upper : twoTrees.menus.get? "m10" = some { id := "m10" } := by decide +kernel
    have above : twoTrees.Above { id := "m4", parentId := "m10", parentPath := "m10." } ["m10"] :=
      .child (by decide) upper (.root rfl)
    rw [within, isWithin_iff, ← above.mem_iff there]
    decide
  have first : twoTrees.resources.get? "1" = some ⟨"1", "m3", "GET", "/a"⟩ := by decide +kernel
  have second : twoTrees.resources.get? "2" = some ⟨"2", "m4", "GET", "/b"⟩ := by decide +kernel
  have linked : twoTrees.links.get? "r" = some ["m3", "m4"] := by decide +kernel
  refine ⟨planted_twoTrees, after, deleted, planted, ?_, ?_, ?_, ?_, ?_⟩
  · rw [gone.menus, if_pos inside]
  · rw [gone.menus, if_neg outside]
  · rw [gone.resources, first, Option.filter_some, if_neg (by simpa using inside)]
  · rw [gone.resources, second, Option.filter_some, if_pos (by simpa using outside)]
  · rw [gone.links, linked]
    simp [inside, outside]

end RoleGrants
