import RoleGrants.Policy.Gather
import RoleGrants.Proofs.Ordering
import RoleGrants.Proofs.Store.Grants

/-! # Tables in any order

A table holds its rows in an order that nobody chose.  Every answer of a store is sorted by
the ids of its rows, or follows the order of what is asked; and since no two rows have one id,
whatever calls have been made (`Identified.of_changes`), each answer is the same for all stores
with the same rows (`SameRows.ofStore_eq`). -/

set_option autoImplicit false

namespace RoleGrants

namespace Store

variable {store after other : Store}

structure SameRows (store other : Store) : Prop where
  roles : ∀ id, other.roles.get? id = store.roles.get? id
  menus : ∀ id, other.menus.get? id = store.menus.get? id
  links : ∀ roleId, other.links.get? roleId = store.links.get? roleId
  resources : ∀ id, other.resources.get? id = store.resources.get? id

structure Identified (store : Store) : Prop where
  roles : store.roles.KeyedBy Role.id
  resources : store.resources.KeyedBy Resource.id

namespace Identified

theorem of_same (identified : store.Identified) (roles : after.roles = store.roles)
    (resources : after.resources = store.resources) : after.Identified where
  roles := roles ▸ identified.roles
  resources := resources ▸ identified.resources

theorem of_change (identified : store.Identified) (change : Change store after) :
    after.Identified := by
  cases change with
  | upsertRole role => exact ⟨identified.roles.insert rfl, identified.resources⟩
  | setRoleStatus roleId status =>
      rw [setRoleStatus]
      split
      · exact identified
      next role found =>
        exact ⟨identified.roles.insert (identified.roles roleId role found), identified.resources⟩
  | dropRole roleId => exact ⟨identified.roles.filter _, identified.resources⟩
  | insertChildMenu parentId menu =>
      rw [insertChildMenu]
      split
      · exact identified
      · split <;> exact identified.of_same rfl rfl
  | setMenuStatus menuId status =>
      rw [setMenuStatus]
      split <;> exact identified.of_same rfl rfl
  | dropMenuResources doomed => exact ⟨identified.roles, identified.resources.filter _⟩
  | unlinkRoleMenu roleId menuId =>
      rw [unlinkRoleMenu]
      split
      · exact identified
      · split <;> exact identified.of_same rfl rfl
  | putResource resource => exact ⟨identified.roles, identified.resources.insert rfl⟩
  | deleteResource resourceId =>
      rw [deleteResource]
      split
      · exact ⟨identified.roles, identified.resources.filter _⟩
      · exact identified
  | _ => exact identified.of_same rfl rfl

theorem of_changes (changes : Relation.ReflTransGen Change empty store) : store.Identified := by
  induction changes with
  | refl =>
      constructor
      · intro id role found
        cases found
      · intro id resource found
        cases found
  | tail _ change ih => exact ih.of_change change

end Identified

namespace SameRows

variable (same : store.SameRows other)

include same

theorem enabledRoles_eq (identified : store.Identified) :
    other.enabledRoles = store.enabledRoles := by
  have arranged := (Table.values_perm same.roles).filter fun role => role.status = .enabled
  exact (sortBy_eq_of_perm text_strictOrder Role.id (identified.roles.nodup_filter _)
    arranged.symm).symm

theorem menuResources_eq (identified : store.Identified) (ids : List String) :
    other.menuResources ids = store.menuResources ids := by
  have arranged := (Table.values_perm same.resources).filter
    fun resource => ids.contains resource.menuId
  exact (sortBy_eq_of_perm text_strictOrder Resource.id (identified.resources.nodup_filter _)
    arranged.symm).symm

theorem roleMenus_eq (roleId : String) : other.roleMenus roleId = store.roleMenus roleId := by
  have shown : other.menus.get? = store.menus.get? := funext same.menus
  rw [Store.roleMenus, Store.roleMenus, shown, same.links]

theorem menuRefs_eq (ids : List String) : other.menuRefs ids = store.menuRefs ids := by
  have shown : other.menus.get? = store.menus.get? := funext same.menus
  rw [menuRefs, menuRefs, shown]

/-- A store is known from its rows to everyone who asks it. -/
theorem ofStore_eq (identified : store.Identified) :
    Queries.ofStore other = Queries.ofStore store := by
  rw [Queries.ofStore, Queries.ofStore, same.enabledRoles_eq identified]
  congr 1
  · exact funext fun roleId => congrArg Except.ok (same.roleMenus_eq roleId)
  · exact funext fun ids => congrArg Except.ok (same.menuRefs_eq ids)
  · exact funext fun ids => congrArg Except.ok (same.menuResources_eq identified ids)

theorem resourcesOf_eq (identified : store.Identified) (roleId : String) :
    ({ memory := other } : StoreAccess).resourcesOf roleId =
      ({ memory := store } : StoreAccess).resourcesOf roleId := by
  have fuel : ({ memory := other } : StoreAccess).gatherFuel =
      ({ memory := store } : StoreAccess).gatherFuel :=
    congrArg (· + 4) (Table.size_eq_of_get?_eq same.menus)
  have queries : ({ memory := other } : StoreAccess).queries =
      ({ memory := store } : StoreAccess).queries :=
    congrArg (Queries.refusing fun _ => none) (same.ofStore_eq identified)
  rw [StoreAccess.resourcesOf, StoreAccess.resourcesOf, fuel, queries]

end SameRows

end Store

end RoleGrants
