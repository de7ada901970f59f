import Mathlib.Data.Finset.Card
import RoleGrants.Proofs.Store.Grants

/-! # Parents

Parents lead from a menu up to others (`Store.IsBelow`), whatever its path says.  Where
they end at a root, what they lead to is just what is above the menu (`Above.mem_iff`),
and what is above one of these is the beginning of it (`Above.prefix_of_mem`).  They do
end if no menu is below itself and every parent is stored (`exists_above`).

A path agrees with the parents if it is lost or names just what they lead to, in whatever
order (`Store.PathsAgree`). -/

set_option autoImplicit false

namespace RoleGrants.Store

def HasParent (store : Store) (id upper : String) : Prop :=
  ∃ menu, store.menus.get? id = some menu ∧ menu.parentId = upper ∧ upper ≠ ""

def IsBelow (store : Store) : String → String → Prop :=
  Relation.TransGen store.HasParent

def IsWithin (store : Store) : String → String → Prop :=
  Relation.ReflTransGen store.HasParent

variable {store after : Store} {menu : Menu} {ids : List String} {id upper : String}

theorem isWithin_iff : store.IsWithin id upper ↔ id = upper ∨ store.IsBelow id upper := by
  rw [IsWithin, Relation.reflTransGen_iff_eq_or_transGen, eq_comm]
  rfl

theorem IsBelow.exists_found (below : store.IsBelow id upper) :
    ∃ menu, store.menus.get? id = some menu := by
  obtain ⟨_, ⟨menu, found, _⟩, _⟩ := Relation.TransGen.head'_iff.mp below
  exact ⟨menu, found⟩

theorem IsBelow.mono (below : after.IsBelow id upper)
    (kept : ∀ id menu, after.menus.get? id = some menu → store.menus.get? id = some menu) :
    store.IsBelow id upper := by
  refine Relation.TransGen.mono ?_ id upper below
  rintro id upper ⟨menu, found, own⟩
  exact ⟨menu, kept id menu found, own⟩

/-! ## What parents lead to -/

namespace Above

theorem mem_iff (found : store.menus.get? id = some menu) (above : store.Above menu ids) :
    upper ∈ ids ↔ store.IsBelow id upper := by
  rw [IsBelow, Relation.TransGen.head'_iff]
  induction above generalizing id with
  | root orphan =>
      refine ⟨nofun, ?_⟩
      rintro ⟨first, ⟨other, met, own, named⟩, _⟩
      rw [found] at met
      cases met
      exact absurd (own.symm.trans orphan) named
  | @child menu parent ids named met above ih =>
      have step : store.HasParent id menu.parentId := ⟨menu, found, rfl, named⟩
      rw [List.mem_append, List.mem_singleton, ih met, ← Relation.TransGen.head'_iff]
      constructor
      · rintro (higher | rfl)
        · exact ⟨_, step, higher.to_reflTransGen⟩
        · exact ⟨_, step, .refl⟩
      · rintro ⟨first, ⟨other, there, rfl, _⟩, rest⟩
        rw [found] at there
        cases there
        rcases Relation.reflTransGen_iff_eq_or_transGen.mp rest with same | higher
        · exact .inr same
        · exact .inl higher

theorem prefix_of_mem (above : store.Above menu ids) {other : Menu} {others : List String}
    (member : upper ∈ ids) (found : store.menus.get? upper = some other)
    (higher : store.Above other others) : others ++ [upper] <+: ids := by
  induction above with
  | root orphan => cases member
  | child named met above ih =>
      rcases List.mem_append.mp member with front | last
      · exact (ih front).trans (List.prefix_append _ _)
      · rw [List.mem_singleton] at last
        subst last
        rw [met] at found
        cases found
        rw [above.unique higher]

theorem not_isBelow_self (found : store.menus.get? id = some menu)
    (above : store.Above menu ids) : ¬ store.IsBelow id id := by
  intro below
  have within := above.prefix_of_mem ((above.mem_iff found).mpr below) found above
  have shorter := within.length_le
  rw [List.length_append, List.length_singleton] at shorter
  omega

theorem mono (above : after.Above menu ids)
    (kept : ∀ id menu, after.menus.get? id = some menu → store.menus.get? id = some menu) :
    store.Above menu ids := by
  induction above with
  | root orphan => exact .root orphan
  | child named met above ih => exact .child named (kept _ _ met) ih

end Above

open Classical in
noncomputable def uppers (store : Store) (id : String) : Finset String :=
  (store.menus.rows.map Prod.fst).toFinset.filter fun upper => store.IsBelow id upper

theorem mem_uppers : upper ∈ store.uppers id ↔
    (∃ menu, store.menus.get? upper = some menu) ∧ store.IsBelow id upper := by
  simp [uppers, Table.mem_rows]

theorem card_uppers_lt (acyclic : ∀ id, ¬ store.IsBelow id id) {parent : Menu}
    (step : store.HasParent id upper) (stored : store.menus.get? upper = some parent) :
    (store.uppers upper).card < (store.uppers id).card := by
  apply Finset.card_lt_card
  rw [Finset.ssubset_iff_of_subset]
  · exact ⟨upper, mem_uppers.mpr ⟨⟨parent, stored⟩, .single step⟩,
      fun member => acyclic upper (mem_uppers.mp member).2⟩
  · intro higher member
    obtain ⟨found, below⟩ := mem_uppers.mp member
    exact mem_uppers.mpr ⟨found, .head step below⟩

/-- Parents that are stored end at a root, unless they lead round. -/
theorem exists_above (acyclic : ∀ id, ¬ store.IsBelow id id)
    (stored : ∀ id upper, store.HasParent id upper → store.menus.contains upper = true)
    (found : store.menus.get? id = some menu) : ∃ ids, store.Above menu ids := by
  -- A path of parents may be as long as the table; what shrinks is the number of those above.
  induction count : (store.uppers id).card using Nat.strong_induction_on
    generalizing id menu with
  | _ count ih =>
      by_cases orphan : menu.parentId = ""
      · exact ⟨[], .root orphan⟩
      · have step : store.HasParent id menu.parentId := ⟨menu, found, rfl, orphan⟩
        have there := stored id menu.parentId step
        rw [Table.contains_eq_isSome, Option.isSome_iff_exists] at there
        obtain ⟨parent, there⟩ := there
        have fewer := card_uppers_lt acyclic step there
        obtain ⟨ids, above⟩ := ih _ (count ▸ fewer) there rfl
        exact ⟨ids ++ [menu.parentId], .child orphan there above⟩

/-! ## Paths and parents -/

/-- Each path is lost, or it names just what the parents of its menu lead to. -/
def PathsAgree (store : Store) : Prop :=
  ∀ id menu, store.menus.get? id = some menu → menu.parentPath = "" ∨
    ∀ upper, upper ∈ ancestorIds menu.parentPath ↔ store.IsBelow id upper

theorem Rooted.pathsAgree (rooted : store.Rooted) : store.PathsAgree := by
  intro id menu found
  obtain ⟨ids, above, empty | whole⟩ := rooted id menu found
  · exact .inl empty
  · right
    intro upper
    rw [whole, above.mem_iff found]

/-! ## What a role reaches -/

theorem Reaches.of_isBelow {roleId : String} (reached : store.Reaches roleId id)
    (below : store.IsBelow id upper) : store.Reaches roleId upper := by
  induction below with
  | single step =>
      obtain ⟨menu, found, rfl, named⟩ := step
      exact .parent reached found named
  | tail _ step ih =>
      obtain ⟨menu, found, rfl, named⟩ := step
      exact .parent ih found named

/-- A role reaches the enabled menus that it is linked to and what their parents lead to. -/
theorem reaches_iff (keyed : store.Keyed) (roleId : String) :
    store.Reaches roleId id ↔ ∃ menu ∈ store.linkedMenus roleId, store.IsWithin menu.id id := by
  constructor
  · intro reached
    induction reached with
    | linked links member found enabled =>
        have linked := (store.mem_linkedMenus roleId _).mpr ⟨_, _, links, member, found, enabled⟩
        exact ⟨_, linked, keyed _ _ found ▸ .refl⟩
    | parent below found named ih =>
        obtain ⟨menu, linked, within⟩ := ih
        exact ⟨menu, linked, within.tail ⟨_, found, rfl, named⟩⟩
  · rintro ⟨menu, linked, within⟩
    obtain ⟨_, own, links, member, found, enabled⟩ := (store.mem_linkedMenus roleId menu).mp linked
    have reached : store.Reaches roleId own := .linked links member found enabled
    rw [keyed own menu found] at within
    rcases isWithin_iff.mp within with rfl | below
    · exact reached
    · exact reached.of_isBelow below

end RoleGrants.Store
