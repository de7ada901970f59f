import RoleGrants.Proofs.Ordering
import RoleGrants.Proofs.Store.Grants
import RoleGrants.Store.Seed

/-! # Rows that fit together

Calls that are made one after another leave every record under its own id, and every
link and every resource with a role and a menu that are stored (`Store.Fits`).  A call
that is refused leaves the store as it was.  A new link or resource names only what was
stored before the call (`Store.links_cases`, `Store.resource_cases`), so that what is
deleted and stored again under its old id begins with nothing. -/

set_option autoImplicit false

namespace RoleGrants

/-! ## Calls that change a store -/

inductive Edit where
  | upsertRole (role : Role)
  | setRoleStatus (roleId : String) (status : Status)
  | deleteRole (roleId : String)
  | upsertMenu (menu : Menu)
  | insertChildMenu (parentId : String) (menu : Menu)
  | setMenuStatus (menuId : String) (status : Status)
  | deleteMenu (menuId : String)
  | linkRoleMenu (roleId menuId : String)
  | unlinkRoleMenu (roleId menuId : String)
  | upsertResource (resource : Resource)
  | deleteResource (resourceId : String)

namespace Store

def edit (store : Store) : Edit → Store × Except StoreError Unit
  | .upsertRole role => (store.upsertRole role, .ok ())
  | .setRoleStatus roleId status => store.setRoleStatus roleId status
  | .deleteRole roleId => store.deleteRole roleId
  | .upsertMenu menu => (store.upsertMenu menu, .ok ())
  | .insertChildMenu parentId menu =>
      ((store.insertChildMenu parentId menu).1,
        (store.insertChildMenu parentId menu).2.map fun _ => ())
  | .setMenuStatus menuId status => store.setMenuStatus menuId status
  | .deleteMenu menuId =>
      ((store.deleteMenu menuId).1, (store.deleteMenu menuId).2.map fun _ => ())
  | .linkRoleMenu roleId menuId => store.linkRoleMenu roleId menuId
  | .unlinkRoleMenu roleId menuId => store.unlinkRoleMenu roleId menuId
  | .upsertResource resource => store.upsertResource resource
  | .deleteResource resourceId => store.deleteResource resourceId

def Edited (store after : Store) : Prop :=
  ∃ edit, after = (store.edit edit).1

inductive Called (store : Store) : Store → Prop
  | edited (edit : Edit) : Called store (store.edit edit).1
  | seeded (seed : Seed) : Called store (seed.apply store).1

def Links (store : Store) (roleId menuId : String) : Prop :=
  ∃ linked, store.links.get? roleId = some linked ∧ menuId ∈ linked

/-- Records stand under their own ids, and what links and resources name is stored. -/
structure Fits (store : Store) : Prop where
  roles : store.roles.KeyedBy Role.id
  menus : store.menus.KeyedBy Menu.id
  resources : store.resources.KeyedBy Resource.id
  owned : ∀ id resource, store.resources.get? id = some resource →
    store.menus.contains resource.menuId = true
  linked : ∀ roleId menuId, store.Links roleId menuId →
    store.roles.contains roleId = true ∧ store.menus.contains menuId = true

variable {store after : Store}

theorem contains_of_requireRole {roleId : String} (answer : store.requireRole roleId = .ok ()) :
    store.roles.contains roleId = true := by
  rw [requireRole] at answer
  split at answer
  next present => exact present
  · cases answer

theorem contains_of_requireMenu {menuId : String} (answer : store.requireMenu menuId = .ok ()) :
    store.menus.contains menuId = true := by
  rw [requireMenu] at answer
  split at answer
  next present => exact present
  · cases answer

theorem links_putLink (store : Store) (roleId menuId otherRole otherMenu : String) :
    (store.putLink roleId menuId).Links otherRole otherMenu ↔
      store.Links otherRole otherMenu ∨ otherRole = roleId ∧ otherMenu = menuId := by
  simp only [Links, putLink, Table.get?_insert]
  split
  next same =>
    subst same
    simp only [Option.some.injEq, exists_eq_left', mem_insertNew text_strictOrder.connected]
    cases store.links.get? otherRole with
    | none => simp
    | some linked => simp [or_comm]
  next apart => simp [apart]

theorem links_dropRoleLinks (store : Store) (roleId otherRole menuId : String) :
    (store.dropRoleLinks roleId).Links otherRole menuId ↔
      otherRole ≠ roleId ∧ store.Links otherRole menuId := by
  simp only [Links, dropRoleLinks, Table.get?_erase]
  split
  next same => simp [same]
  next apart => simp [apart]

theorem links_dropMenuLinks (store : Store) (doomed : List String) (roleId menuId : String) :
    (store.dropMenuLinks doomed).Links roleId menuId ↔
      menuId ∉ doomed ∧ store.Links roleId menuId := by
  simp only [Links, dropMenuLinks, Table.get?_mapValues]
  cases store.links.get? roleId with
  | none => simp
  | some linked => simp [and_comm]

theorem links_of_unlinkRoleMenu {roleId menuId otherRole otherMenu : String}
    (link : (store.unlinkRoleMenu roleId menuId).1.Links otherRole otherMenu) :
    store.Links otherRole otherMenu := by
  revert link
  rw [unlinkRoleMenu]
  split
  · exact id
  next linked found =>
    split
    · rintro ⟨kept, row, member⟩
      rw [Table.get?_insert] at row
      split at row
      next same =>
        cases row
        exact ⟨linked, same ▸ found, (List.mem_filter.mp member).1⟩
      · exact ⟨kept, row, member⟩
    · exact id

theorem contains_dropMenus (store : Store) (doomed : List String) (id : String) :
    (store.dropMenus doomed).menus.contains id = true ↔
      id ∉ doomed ∧ store.menus.contains id = true := by
  rw [Table.contains_eq_isSome, Table.contains_eq_isSome, dropMenus, Table.get?_filter]
  cases found : store.menus.get? id <;> simp [Option.filter_some]

theorem get?_dropMenuResources (store : Store) (doomed : List String) (id : String)
    (resource : Resource) :
    (store.dropMenuResources doomed).resources.get? id = some resource ↔
      resource.menuId ∉ doomed ∧ store.resources.get? id = some resource := by
  rw [dropMenuResources, Table.get?_filter, Option.filter_eq_some_iff]
  simp [and_comm]

/-! ## Every call keeps the rows together -/

namespace Fits

theorem empty : Store.empty.Fits := by
  refine ⟨?_, ?_, ?_, ?_, ?_⟩
  · intro key value found
    cases found
  · intro key value found
    cases found
  · intro key value found
    cases found
  · intro key value found
    cases found
  · rintro roleId menuId ⟨linked, found, _⟩
    cases found

theorem withRoles (fits : store.Fits) {roles : Table Role} (keyed : roles.KeyedBy Role.id)
    (kept : ∀ id, store.roles.contains id = true → roles.contains id = true) :
    ({ store with roles := roles } : Store).Fits where
  roles := keyed
  menus := fits.menus
  resources := fits.resources
  owned := fits.owned
  linked roleId menuId link := by
    obtain ⟨role, menu⟩ := fits.linked roleId menuId link
    exact ⟨kept roleId role, menu⟩

theorem withMenus (fits : store.Fits) {menus : Table Menu} (keyed : menus.KeyedBy Menu.id)
    (kept : ∀ id, store.menus.contains id = true → menus.contains id = true) :
    ({ store with menus := menus } : Store).Fits where
  roles := fits.roles
  menus := keyed
  resources := fits.resources
  owned id resource found := kept _ (fits.owned id resource found)
  linked roleId menuId link := by
    obtain ⟨role, menu⟩ := fits.linked roleId menuId link
    exact ⟨role, kept menuId menu⟩

theorem withLinks (fits : store.Fits) {links : Table (List String)}
    (stored : ∀ roleId menuId, ({ store with links := links } : Store).Links roleId menuId →
      store.roles.contains roleId = true ∧ store.menus.contains menuId = true) :
    ({ store with links := links } : Store).Fits :=
  ⟨fits.roles, fits.menus, fits.resources, fits.owned, stored⟩

theorem withResources (fits : store.Fits) {resources : Table Resource}
    (keyed : resources.KeyedBy Resource.id)
    (owned : ∀ id resource, resources.get? id = some resource →
      store.menus.contains resource.menuId = true) :
    ({ store with resources := resources } : Store).Fits :=
  ⟨fits.roles, fits.menus, keyed, owned, fits.linked⟩

theorem setRoleStatus (fits : store.Fits) (roleId : String) (status : Status) :
    (store.setRoleStatus roleId status).1.Fits := by
  rw [Store.setRoleStatus]
  split
  · exact fits
  next role found =>
    refine fits.withRoles (fits.roles.insert (fits.roles roleId role found)) ?_
    exact fun id present => (Table.contains_insert _ _ _ _).mpr (.inr present)

theorem deleteRole (fits : store.Fits) (roleId : String) : (store.deleteRole roleId).1.Fits := by
  rw [Store.deleteRole]
  split
  · refine ⟨fits.roles.filter _, fits.menus, fits.resources, fits.owned, ?_⟩
    intro other menuId link
    obtain ⟨apart, before⟩ := (links_dropRoleLinks _ roleId other menuId).mp link
    obtain ⟨role, menu⟩ := fits.linked other menuId before
    exact ⟨(Table.contains_erase _ _ _).mpr ⟨apart, role⟩, menu⟩
  · exact fits

theorem upsertMenu (fits : store.Fits) (menu : Menu) : (store.upsertMenu menu).Fits :=
  fits.withMenus (fits.menus.insert rfl) fun _ present =>
    (Table.contains_insert _ _ _ _).mpr (.inr present)

theorem insertChildMenu (fits : store.Fits) (parentId : String) (menu : Menu) :
    (store.insertChildMenu parentId menu).1.Fits := by
  rw [Store.insertChildMenu]
  split
  · exact fits
  next parent found =>
    split
    · exact fits
    · exact fits.upsertMenu (childOf parent menu)

theorem setMenuStatus (fits : store.Fits) (menuId : String) (status : Status) :
    (store.setMenuStatus menuId status).1.Fits := by
  rw [Store.setMenuStatus]
  split
  · exact fits
  next menu found =>
    refine fits.withMenus (fits.menus.insert (fits.menus menuId menu found)) ?_
    exact fun id present => (Table.contains_insert _ _ _ _).mpr (.inr present)

theorem deleteMenu (fits : store.Fits) (menuId : String) : (store.deleteMenu menuId).1.Fits := by
  rw [Store.deleteMenu]
  split
  · exact fits
  next menu found =>
    generalize store.subtree menuId menu = doomed
    refine ⟨fits.roles, fits.menus.filter _, fits.resources.filter _, ?_, ?_⟩
    · intro id resource kept
      obtain ⟨spared, present⟩ := (get?_dropMenuResources _ doomed id resource).mp kept
      exact (contains_dropMenus store doomed _).mpr ⟨spared, fits.owned id resource present⟩
    · intro roleId other link
      obtain ⟨spared, before⟩ := (links_dropMenuLinks _ doomed roleId other).mp link
      obtain ⟨role, present⟩ := fits.linked roleId other before
      exact ⟨role, (contains_dropMenus store doomed other).mpr ⟨spared, present⟩⟩

theorem linkRoleMenu (fits : store.Fits) (roleId menuId : String) :
    (store.linkRoleMenu roleId menuId).1.Fits := by
  rw [Store.linkRoleMenu]
  split
  · exact fits
  next role =>
    split
    · exact fits
    next menu =>
      refine fits.withLinks ?_
      intro otherRole otherMenu link
      rcases (store.links_putLink roleId menuId otherRole otherMenu).mp link with old | ⟨rfl, rfl⟩
      · exact fits.linked otherRole otherMenu old
      · exact ⟨contains_of_requireRole role, contains_of_requireMenu menu⟩

theorem unlinkRoleMenu (fits : store.Fits) (roleId menuId : String) :
    (store.unlinkRoleMenu roleId menuId).1.Fits := by
  have fewer : ∀ otherRole otherMenu,
      (store.unlinkRoleMenu roleId menuId).1.Links otherRole otherMenu →
        store.roles.contains otherRole = true ∧ store.menus.contains otherMenu = true :=
    fun otherRole otherMenu link => fits.linked _ _ (links_of_unlinkRoleMenu link)
  revert fewer
  rw [Store.unlinkRoleMenu]
  split
  · exact fun _ => fits
  · split
    · exact fits.withLinks
    · exact fun _ => fits

theorem upsertResource (fits : store.Fits) (resource : Resource) :
    (store.upsertResource resource).1.Fits := by
  rw [Store.upsertResource]
  split
  · exact fits
  next menu =>
    refine fits.withResources (fits.resources.insert rfl) ?_
    intro id other found
    rw [Table.get?_insert] at found
    split at found
    · cases found
      exact contains_of_requireMenu menu
    · exact fits.owned id other found

theorem deleteResource (fits : store.Fits) (resourceId : String) :
    (store.deleteResource resourceId).1.Fits := by
  rw [Store.deleteResource]
  split
  · refine fits.withResources (fits.resources.filter _) ?_
    exact fun id resource found => fits.owned id resource (Table.get?_of_get?_filter found)
  · exact fits

theorem edit (fits : store.Fits) (edit : Edit) : (store.edit edit).1.Fits := by
  cases edit with
  | upsertRole role =>
      exact fits.withRoles (fits.roles.insert rfl) fun _ present =>
        (Table.contains_insert _ _ _ _).mpr (.inr present)
  | setRoleStatus roleId status => exact fits.setRoleStatus roleId status
  | deleteRole roleId => exact fits.deleteRole roleId
  | upsertMenu menu => exact fits.upsertMenu menu
  | insertChildMenu parentId menu => exact fits.insertChildMenu parentId menu
  | setMenuStatus menuId status => exact fits.setMenuStatus menuId status
  | deleteMenu menuId => exact fits.deleteMenu menuId
  | linkRoleMenu roleId menuId => exact fits.linkRoleMenu roleId menuId
  | unlinkRoleMenu roleId menuId => exact fits.unlinkRoleMenu roleId menuId
  | upsertResource resource => exact fits.upsertResource resource
  | deleteResource resourceId => exact fits.deleteResource resourceId

theorem edits (fits : store.Fits) (run : Relation.ReflTransGen Edited store after) :
    after.Fits := by
  induction run with
  | refl => exact fits
  | tail _ step ih =>
      obtain ⟨edit, rfl⟩ := step
      exact ih.edit edit

end Fits

/-! ## Calls that are refused -/

/-- A call that is refused leaves the store as it was. -/
theorem edit_of_refused {edit : Edit} {error : StoreError}
    (refused : (store.edit edit).2 = .error error) : (store.edit edit).1 = store := by
  revert refused
  cases edit with
  | upsertRole role =>
      intro refused
      cases refused
  | setRoleStatus roleId status =>
      rw [edit, setRoleStatus]
      split
      · exact fun _ => rfl
      · intro refused
        cases refused
  | deleteRole roleId =>
      rw [edit, deleteRole]
      split
      · intro refused
        cases refused
      · exact fun _ => rfl
  | upsertMenu menu =>
      intro refused
      cases refused
  | insertChildMenu parentId menu =>
      rw [edit, insertChildMenu]
      split
      · exact fun _ => rfl
      · split
        · exact fun _ => rfl
        · intro refused
          cases refused
  | setMenuStatus menuId status =>
      rw [edit, setMenuStatus]
      split
      · exact fun _ => rfl
      · intro refused
        cases refused
  | deleteMenu menuId =>
      rw [edit, deleteMenu]
      split
      · exact fun _ => rfl
      · intro refused
        cases refused
  | linkRoleMenu roleId menuId =>
      rw [edit, linkRoleMenu]
      split
      · exact fun _ => rfl
      · split
        · exact fun _ => rfl
        · intro refused
          cases refused
  | unlinkRoleMenu roleId menuId =>
      rw [edit, unlinkRoleMenu]
      split
      · exact fun _ => rfl
      · split
        · intro refused
          cases refused
        · exact fun _ => rfl
  | upsertResource resource =>
      rw [edit, upsertResource]
      split
      · exact fun _ => rfl
      · intro refused
        cases refused
  | deleteResource resourceId =>
      rw [edit, deleteResource]
      split
      · intro refused
        cases refused
      · exact fun _ => rfl

/-! ## What is new -/

theorem links_cases {edit : Edit} {roleId menuId : String}
    (link : (store.edit edit).1.Links roleId menuId) :
    store.Links roleId menuId ∨
      store.roles.contains roleId = true ∧ store.menus.contains menuId = true := by
  revert link
  cases edit with
  | upsertRole role => exact .inl
  | setRoleStatus otherId status =>
      rw [edit, setRoleStatus]
      split <;> exact .inl
  | deleteRole otherId =>
      rw [edit, deleteRole]
      split
      · exact fun link => .inl ((links_dropRoleLinks _ otherId roleId menuId).mp link).2
      · exact .inl
  | upsertMenu menu => exact .inl
  | insertChildMenu parentId menu =>
      rw [edit, insertChildMenu]
      split
      · exact .inl
      · split <;> exact .inl
  | setMenuStatus otherId status =>
      rw [edit, setMenuStatus]
      split <;> exact .inl
  | deleteMenu otherId =>
      rw [edit, deleteMenu]
      split
      · exact .inl
      · exact fun link => .inl ((links_dropMenuLinks _ _ roleId menuId).mp link).2
  | linkRoleMenu otherRole otherMenu =>
      rw [edit, linkRoleMenu]
      split
      · exact .inl
      next role =>
        split
        · exact .inl
        next menu =>
          intro link
          rcases (store.links_putLink otherRole otherMenu roleId menuId).mp link with
            old | ⟨rfl, rfl⟩
          · exact .inl old
          · exact .inr ⟨contains_of_requireRole role, contains_of_requireMenu menu⟩
  | unlinkRoleMenu otherRole otherMenu => exact fun link => .inl (links_of_unlinkRoleMenu link)
  | upsertResource resource =>
      rw [edit, upsertResource]
      split <;> exact .inl
  | deleteResource resourceId =>
      rw [edit, deleteResource]
      split <;> exact .inl

theorem resource_cases {edit : Edit} {id : String} {resource : Resource}
    (found : (store.edit edit).1.resources.get? id = some resource) :
    store.resources.get? id = some resource ∨ store.menus.contains resource.menuId = true := by
  revert found
  cases edit with
  | upsertRole role => exact .inl
  | setRoleStatus otherId status =>
      rw [edit, setRoleStatus]
      split <;> exact .inl
  | deleteRole otherId =>
      rw [edit, deleteRole]
      split <;> exact .inl
  | upsertMenu menu => exact .inl
  | insertChildMenu parentId menu =>
      rw [edit, insertChildMenu]
      split
      · exact .inl
      · split <;> exact .inl
  | setMenuStatus otherId status =>
      rw [edit, setMenuStatus]
      split <;> exact .inl
  | deleteMenu otherId =>
      rw [edit, deleteMenu]
      split
      · exact .inl
      · exact fun kept => .inl ((get?_dropMenuResources _ _ id resource).mp kept).2
  | linkRoleMenu otherRole otherMenu =>
      rw [edit, linkRoleMenu]
      split
      · exact .inl
      · split <;> exact .inl
  | unlinkRoleMenu otherRole otherMenu =>
      rw [edit, unlinkRoleMenu]
      split
      · exact .inl
      · split <;> exact .inl
  | upsertResource new =>
      rw [edit, upsertResource]
      split
      · exact .inl
      next menu =>
        intro found
        simp only [putResource, Table.get?_insert] at found
        split at found
        · cases found
          exact .inr (contains_of_requireMenu menu)
        · exact .inl found
  | deleteResource resourceId =>
      rw [edit, deleteResource]
      split
      · exact fun kept => .inl (Table.get?_of_get?_filter kept)
      · exact .inl

/-! ## What has been deleted -/

theorem contains_deleteRole {roleId : String} (deleted : (store.deleteRole roleId).2 = .ok ()) :
    (store.deleteRole roleId).1.roles.contains roleId = false := by
  revert deleted
  rw [deleteRole]
  split
  · intro _
    rw [Bool.eq_false_iff]
    exact fun present => ((Table.contains_erase _ _ _).mp present).1 rfl
  · intro refused
    cases refused

theorem contains_deleteMenu (fits : store.Fits) {menuId : String} {count : Nat}
    (deleted : (store.deleteMenu menuId).2 = .ok count) :
    (store.deleteMenu menuId).1.menus.contains menuId = false := by
  revert deleted
  rw [deleteMenu]
  split
  · intro refused
    cases refused
  next menu found =>
    intro _
    rw [Bool.eq_false_iff]
    intro present
    have own := (Keyed.mem_subtree_iff fits.menus menuId menu found).mpr (.inl rfl)
    exact ((contains_dropMenus store _ menuId).mp present).1 own

/-! ## Seeds -/

theorem edits_foldl {α : Type} (act : Store → α → Store)
    (edits : ∀ store record, Edited store (act store record)) (store : Store) (records : List α) :
    Relation.ReflTransGen Edited store (records.foldl act store) := by
  induction records generalizing store with
  | nil => exact .refl
  | cons record rest ih => exact .head (edits store record) (ih _)

theorem edits_applyAll {α : Type} (act : Store → α → Store × Except StoreError Unit)
    (edits : ∀ store record, Edited store (act store record).1) (store : Store)
    (records : List α) :
    Relation.ReflTransGen Edited store (Seed.applyAll act store records).1 := by
  induction records generalizing store with
  | nil => exact .refl
  | cons record rest ih =>
      have first := edits store record
      rw [Seed.applyAll]
      split
      next after made =>
        rw [made] at first
        exact .head first (ih after)
      next after error refused =>
        rw [refused] at first
        exact .single first

theorem edits_apply (seed : Seed) (store : Store) :
    Relation.ReflTransGen Edited store (seed.apply store).1 := by
  have roles := edits_foldl upsertRole (fun _ role => ⟨.upsertRole role, rfl⟩) store seed.roles
  have menus := edits_foldl upsertMenu (fun _ menu => ⟨.upsertMenu menu, rfl⟩)
    (seed.roles.foldl upsertRole store) seed.menus
  have resources := edits_applyAll upsertResource
    (fun _ resource => ⟨.upsertResource resource, rfl⟩)
    (seed.menus.foldl upsertMenu (seed.roles.foldl upsertRole store)) seed.resources
  have filled := roles.trans (menus.trans resources)
  rw [Seed.apply]
  split
  next after error refused =>
    rw [refused] at filled
    exact filled
  next after made =>
    rw [made] at filled
    exact filled.trans (edits_applyAll
      (fun store link => store.linkRoleMenu link.roleId link.menuId)
      (fun _ link => ⟨.linkRoleMenu link.roleId link.menuId, rfl⟩) after seed.links)

theorem Fits.of_calls (calls : Relation.ReflTransGen Called Store.empty store) : store.Fits := by
  induction calls with
  | refl => exact Fits.empty
  | tail _ call ih =>
      cases call with
      | edited edit => exact ih.edit edit
      | seeded seed => exact ih.edits (edits_apply seed _)

end Store

open Store

/-- Calls that are made one after another, seeds among them, keep the rows of a store together,
and a call that is refused changes nothing.  What is deleted is gone, and whatever is not stored
begins without links and resources when it is stored again. -/
theorem rows_of_a_store_fit_together :
    (∀ store, Relation.ReflTransGen Called Store.empty store → store.Fits) ∧
      (∀ (store : Store) (edit : Edit) (error : StoreError),
        (store.edit edit).2 = .error error → (store.edit edit).1 = store) ∧
      (∀ store, Relation.ReflTransGen Called Store.empty store →
        (∀ roleId, (store.deleteRole roleId).2 = .ok () →
          (store.deleteRole roleId).1.roles.contains roleId = false) ∧
        ∀ menuId count, (store.deleteMenu menuId).2 = .ok count →
          (store.deleteMenu menuId).1.menus.contains menuId = false) ∧
      (∀ store, Relation.ReflTransGen Called Store.empty store → ∀ edit : Edit,
        (∀ roleId, store.roles.contains roleId = false →
          ∀ menuId, ¬ (store.edit edit).1.Links roleId menuId) ∧
        ∀ menuId, store.menus.contains menuId = false →
          (∀ roleId, ¬ (store.edit edit).1.Links roleId menuId) ∧
            ∀ resource ∈ (store.edit edit).1.resources.values, resource.menuId ≠ menuId) ∧
      ∀ (seed : Seed) (store : Store),
        Relation.ReflTransGen Edited store (seed.apply store).1 := by
  refine ⟨fun _ => Fits.of_calls, fun _ _ _ => edit_of_refused, ?_, ?_, edits_apply⟩
  · intro store calls
    exact ⟨fun _ => contains_deleteRole, fun _ _ => contains_deleteMenu (Fits.of_calls calls)⟩
  · intro store calls edit
    have fits := Fits.of_calls calls
    have stored : ∀ roleId menuId, (store.edit edit).1.Links roleId menuId →
        store.roles.contains roleId = true ∧ store.menus.contains menuId = true := by
      intro roleId menuId link
      rcases links_cases link with before | both
      · exact fits.linked roleId menuId before
      · exact both
    refine ⟨?_, ?_⟩
    · intro roleId absent menuId link
      rw [(stored roleId menuId link).1] at absent
      cases absent
    · intro menuId absent
      refine ⟨?_, ?_⟩
      · intro roleId link
        rw [(stored roleId menuId link).2] at absent
        cases absent
      · rintro resource member rfl
        obtain ⟨id, found⟩ := Table.exists_of_mem_values member
        have present : store.menus.contains resource.menuId = true := by
          rcases resource_cases found with before | stored
          · exact fits.owned id resource before
          · exact stored
        rw [present] at absent
        cases absent

def linkedStore : Store :=
  let seed : Seed :=
    ⟨[{ id := "r" }], [{ id := "m" }], [⟨"1", "m", "GET", "/a"⟩], [⟨"r", "m"⟩]⟩
  (seed.apply Store.empty).1

/-- The role that is deleted and stored again is linked to nothing, and the menu that is deleted
and stored again has no resource; a link to a menu that is not there is refused. -/
theorem what_is_stored_again_begins_with_nothing :
    linkedStore.Fits ∧ linkedStore.Links "r" "m" ∧
      (linkedStore.edit (.linkRoleMenu "r" "x")).1 = linkedStore ∧
      (∀ menuId, ¬ (((linkedStore.edit (.deleteRole "r")).1).edit
        (.upsertRole { id := "r" })).1.Links "r" menuId) ∧
      ∀ resource ∈ (((linkedStore.edit (.deleteMenu "m")).1).edit
        (.upsertMenu { id := "m" })).1.resources.values, resource.menuId ≠ "m" := by
  obtain ⟨fits, refused, deleted, afresh, _⟩ := rows_of_a_store_fit_together
  have called : Relation.ReflTransGen Called Store.empty linkedStore := .single (.seeded _)
  have roleGone := (deleted linkedStore called).1 "r" (by decide +kernel)
  have menuGone := (deleted linkedStore called).2 "m" 1 (by decide +kernel)
  have linked : linkedStore.links.get? "r" = some ["m"] := by decide +kernel
  refine ⟨fits linkedStore called, ⟨["m"], linked, List.mem_cons_self⟩, ?_, ?_, ?_⟩
  · exact refused linkedStore (.linkRoleMenu "r" "x") (noMenu "x") (by decide +kernel)
  · exact (afresh _ (called.tail (.edited (.deleteRole "r"))) (.upsertRole { id := "r" })).1 "r"
      roleGone
  · exact ((afresh _ (called.tail (.edited (.deleteMenu "m"))) (.upsertMenu { id := "m" })).2 "m"
      menuGone).2

end RoleGrants
