import Mathlib.Logic.Relation
import RoleGrants.Proofs.Ordering
import RoleGrants.Proofs.Store.Rows
import RoleGrants.Store.Basic

/-! # What a store grants

A role reaches the enabled menus that it is linked to and every menu above them,
enabled or not (`Reaches`), and it is granted the resources of the menus that it
reaches (`Grants`).  This is said of the rows alone: no path of a menu is looked at.

A store is `Rooted` when the parents of its menus end at a root, and the path of a
menu names either nothing or all the menus above it.  That menus stand under their
own ids needs no care: it is so whatever calls have been made (`Keyed.of_changes`). -/

set_option autoImplicit false

namespace RoleGrants.Store

/-- The ids above a menu, the root first. -/
inductive Above (store : Store) : Menu → List String → Prop
  | root {menu : Menu} (orphan : menu.parentId = "") : Above store menu []
  | child {menu parent : Menu} {ids : List String} (named : menu.parentId ≠ "")
      (found : store.menus.get? menu.parentId = some parent) (above : Above store parent ids) :
      Above store menu (ids ++ [menu.parentId])

/-- Every menu hangs in a tree, and its path is empty or names exactly what is above it. -/
def Rooted (store : Store) : Prop :=
  ∀ id menu, store.menus.get? id = some menu →
    ∃ ids, store.Above menu ids ∧ (menu.parentPath = "" ∨ ancestorIds menu.parentPath = ids)

inductive Reaches (store : Store) (roleId : String) : String → Prop
  | linked {linked : List String} {id : String} {menu : Menu}
      (links : store.links.get? roleId = some linked) (member : id ∈ linked)
      (found : store.menus.get? id = some menu) (enabled : menu.status = .enabled) :
      Reaches store roleId id
  | parent {id : String} {menu : Menu} (below : Reaches store roleId id)
      (found : store.menus.get? id = some menu) (named : menu.parentId ≠ "") :
      Reaches store roleId menu.parentId

def HasRole (store : Store) (roleId : String) : Prop :=
  ∃ role ∈ store.roles.values, role.id = roleId ∧ role.status = .enabled

theorem mem_enabledRoles (store : Store) (role : Role) :
    role ∈ store.enabledRoles ↔ role ∈ store.roles.values ∧ role.status = .enabled := by
  simp [enabledRoles]

theorem hasRole_iff (store : Store) (roleId : String) :
    store.HasRole roleId ↔ ∃ role ∈ store.enabledRoles, role.id = roleId := by
  simp only [HasRole, mem_enabledRoles]
  constructor
  · rintro ⟨role, present, same, enabled⟩
    exact ⟨role, ⟨present, enabled⟩, same⟩
  · rintro ⟨role, ⟨present, enabled⟩, same⟩
    exact ⟨role, present, same, enabled⟩

def Grants (store : Store) (roleId : String) (resource : Resource) : Prop :=
  store.HasRole roleId ∧ resource ∈ store.resources.values ∧
    store.Reaches roleId resource.menuId

def linkedMenus (store : Store) (roleId : String) : List Menu :=
  (((store.links.get? roleId).getD []).filterMap store.menus.get?).filter fun menu =>
    menu.status = .enabled

theorem roleMenus_eq (store : Store) (roleId : String) :
    store.roleMenus roleId = (store.linkedMenus roleId).map Menu.ref :=
  rfl

theorem mem_linkedMenus (store : Store) (roleId : String) (menu : Menu) :
    menu ∈ store.linkedMenus roleId ↔
      ∃ linked id, store.links.get? roleId = some linked ∧ id ∈ linked ∧
        store.menus.get? id = some menu ∧ menu.status = .enabled := by
  rw [linkedMenus, List.mem_filter, List.mem_filterMap]
  constructor
  · rintro ⟨⟨id, member, found⟩, enabled⟩
    cases links : store.links.get? roleId with
    | none =>
        rw [links] at member
        cases member
    | some linked =>
        rw [links] at member
        exact ⟨linked, id, rfl, member, found, by simpa using enabled⟩
  · rintro ⟨linked, id, links, member, found, enabled⟩
    rw [links]
    exact ⟨⟨id, member, found⟩, by simpa using enabled⟩

/-! ## Menus under their own ids -/

def Keyed (store : Store) : Prop :=
  ∀ id menu, store.menus.get? id = some menu → menu.id = id

/-- What a call may do to a store under one lock.  Calls that run side by side make these
changes in any order. -/
inductive Change (store : Store) : Store → Prop
  | upsertRole (role : Role) : Change store (store.upsertRole role)
  | setRoleStatus (roleId : String) (status : Status) :
      Change store (store.setRoleStatus roleId status).1
  | dropRole (roleId : String) : Change store (store.dropRole roleId)
  | dropRoleLinks (roleId : String) : Change store (store.dropRoleLinks roleId)
  | upsertMenu (menu : Menu) : Change store (store.upsertMenu menu)
  | insertChildMenu (parentId : String) (menu : Menu) :
      Change store (store.insertChildMenu parentId menu).1
  | setMenuStatus (menuId : String) (status : Status) :
      Change store (store.setMenuStatus menuId status).1
  | dropMenus (doomed : List String) : Change store (store.dropMenus doomed)
  | dropMenuResources (doomed : List String) : Change store (store.dropMenuResources doomed)
  | dropMenuLinks (doomed : List String) : Change store (store.dropMenuLinks doomed)
  | putLink (roleId menuId : String) : Change store (store.putLink roleId menuId)
  | unlinkRoleMenu (roleId menuId : String) : Change store (store.unlinkRoleMenu roleId menuId).1
  | putResource (resource : Resource) : Change store (store.putResource resource)
  | deleteResource (resourceId : String) : Change store (store.deleteResource resourceId).1

namespace Keyed

variable {store after : Store}

theorem of_same (keyed : Keyed store) (menus : after.menus = store.menus) : Keyed after := by
  intro id menu found
  rw [menus] at found
  exact keyed id menu found

theorem insert (keyed : Keyed store) (menu : Menu)
    (menus : after.menus = store.menus.insert menu.id menu) : Keyed after := by
  intro id other found
  rw [menus, Table.get?_insert] at found
  split at found
  next same =>
    cases found
    exact same.symm
  · exact keyed id other found

theorem of_change (keyed : Keyed store) (change : Change store after) : Keyed after := by
  cases change with
  | setRoleStatus roleId status =>
      rw [setRoleStatus]
      split <;> exact keyed.of_same rfl
  | upsertMenu menu => exact keyed.insert menu rfl
  | insertChildMenu parentId menu =>
      rw [insertChildMenu]
      split
      · exact keyed
      next parent found =>
        split
        · exact keyed
        · exact keyed.insert (childOf parent menu) rfl
  | setMenuStatus menuId status =>
      rw [setMenuStatus]
      split
      · exact keyed
      next menu found =>
        have own := keyed menuId menu found
        exact keyed.insert { menu with status := status } (by rw [own])
  | dropMenus doomed =>
      intro id other kept
      exact keyed id other (Table.get?_of_get?_filter kept)
  | unlinkRoleMenu roleId menuId =>
      rw [unlinkRoleMenu]
      split
      · exact keyed
      · split <;> exact keyed.of_same rfl
  | deleteResource resourceId =>
      rw [deleteResource]
      split <;> exact keyed.of_same rfl
  | _ => exact keyed.of_same rfl

theorem of_changes (changes : Relation.ReflTransGen Change empty store) : Keyed store := by
  induction changes with
  | refl =>
      intro id menu found
      cases found
  | tail _ change ih => exact ih.of_change change

/-- The menus that go with a menu are those that are it, or whose path begins with the path below
it. -/
theorem mem_subtree (keyed : Keyed store) (menuId : String) (menu : Menu) (id : String) :
    id ∈ store.subtree menuId menu ↔ ∃ row, store.menus.get? id = some row ∧
      (id = menuId ∨ Text.startsWith row.parentPath menu.childPath = true) := by
  rw [subtree, text_strictOrder.mem_ascending, List.mem_map]
  simp only [List.mem_filter, Bool.or_eq_true, beq_iff_eq]
  constructor
  · rintro ⟨row, ⟨member, doomed⟩, rfl⟩
    obtain ⟨key, found⟩ := Table.exists_of_mem_values member
    have own := keyed key row found
    exact ⟨row, own ▸ found, doomed⟩
  · rintro ⟨row, found, doomed⟩
    have own := keyed id row found
    have member : row ∈ store.menus.values :=
      List.mem_map.mpr ⟨_, (store.menus.mem_rows id row).mpr found, rfl⟩
    exact ⟨row, ⟨member, by rwa [own]⟩, own⟩

theorem mem_subtree_iff (keyed : Keyed store) (menuId : String) (menu : Menu) {id : String}
    {row : Menu} (found : store.menus.get? id = some row) :
    id ∈ store.subtree menuId menu ↔
      id = menuId ∨ Text.startsWith row.parentPath menu.childPath = true := by
  rw [keyed.mem_subtree, found]
  simp

end Keyed

/-! ## What is above a menu -/

namespace Above

variable {store : Store} {menu : Menu} {ids : List String}

theorem unique (above : store.Above menu ids) {others : List String}
    (again : store.Above menu others) : others = ids := by
  induction above generalizing others with
  | root orphan =>
      cases again with
      | root _ => rfl
      | child named _ _ => exact absurd orphan named
  | child named met above ih =>
      cases again with
      | root orphan => exact absurd orphan named
      | child _ found higher =>
          rw [met] at found
          cases found
          rw [ih higher]

end Above

end RoleGrants.Store
