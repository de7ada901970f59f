import Mathlib.Data.List.Count
import RoleGrants.Proofs.Store.Integrity

/-! # Calls side by side

A call that takes several locks lets others in between its sections.  An `Errand` is such a
call with the section that comes next, and a schedule says whose section is next.  A link or
a resource that names what is not stored dangles, unless a deletion that is under way is going
to take it (`Crowd.awaits`).

Deletions never leave anything behind, since what names a menu or a role that goes is taken in
a later section of the same call.  Only what is put can come too late: after the menu or the
role was looked up it may go, and the deletion may be past the rows of that kind
(`Crowd.late?`).  So rows dangle at the end exactly if some were put late and not taken since
(`rows_dangle_exactly_if_put_too_late`). -/

set_option autoImplicit false

namespace RoleGrants

/-! ## Rows that name others -/

inductive Reference where
  | link (roleId menuId : String)
  | resource (resource : Resource)
  deriving DecidableEq

namespace Reference

def IsIn (store : Store) : Reference → Prop
  | .link roleId menuId => store.Links roleId menuId
  | .resource row => ∃ id, store.resources.get? id = some row

def menuId : Reference → String
  | .link _ menuId => menuId
  | .resource row => row.menuId

/-- All that the row names is stored. -/
def resolves (store : Store) : Reference → Bool
  | .link roleId menuId => store.roles.contains roleId && store.menus.contains menuId
  | .resource row => store.menus.contains row.menuId

end Reference

def Store.Resolved (store : Store) : Prop :=
  ∀ reference : Reference, reference.IsIn store → reference.resolves store = true

theorem Store.Fits.resolved {store : Store} (fits : store.Fits) : store.Resolved := by
  intro reference inside
  cases reference with
  | link roleId menuId =>
      obtain ⟨role, menu⟩ := fits.linked roleId menuId inside
      rw [Reference.resolves, role, menu]
      rfl
  | resource resource =>
      obtain ⟨id, found⟩ := inside
      exact fits.owned id resource found

/-! ## Calls section by section -/

inductive Errand where
  | linkRole (roleId menuId : String)
  | linkMenu (roleId menuId : String)
  | linkPut (roleId menuId : String)
  | resourceMenu (resource : Resource)
  | resourcePut (resource : Resource)
  | menuDrop (menuId : String)
  | menuResources (doomed : List String)
  | menuLinks (doomed : List String)
  | roleDrop (roleId : String)
  | roleLinks (roleId : String)
  | finished (answer : Except StoreError Unit)

namespace Errand

def step (store : Store) : Errand → Store × Errand
  | .linkRole roleId menuId =>
      match store.requireRole roleId with
      | .error refusal => (store, .finished (.error refusal))
      | .ok () => (store, .linkMenu roleId menuId)
  | .linkMenu roleId menuId =>
      match store.requireMenu menuId with
      | .error refusal => (store, .finished (.error refusal))
      | .ok () => (store, .linkPut roleId menuId)
  | .linkPut roleId menuId => (store.putLink roleId menuId, .finished (.ok ()))
  | .resourceMenu resource =>
      match store.requireMenu resource.menuId with
      | .error refusal => (store, .finished (.error refusal))
      | .ok () => (store, .resourcePut resource)
  | .resourcePut resource => (store.putResource resource, .finished (.ok ()))
  | .menuDrop menuId =>
      match store.menus.get? menuId with
      | none => (store, .finished (.error (Store.noMenu menuId)))
      | some menu =>
          let doomed := store.subtree menuId menu
          (store.dropMenus doomed, .menuResources doomed)
  | .menuResources doomed => (store.dropMenuResources doomed, .menuLinks doomed)
  | .menuLinks doomed => (store.dropMenuLinks doomed, .finished (.ok ()))
  | .roleDrop roleId =>
      if store.roles.contains roleId then (store.dropRole roleId, .roleLinks roleId)
      else (store, .finished (.error (Store.noRole roleId)))
  | .roleLinks roleId => (store.dropRoleLinks roleId, .finished (.ok ()))
  | .finished answer => (store, .finished answer)

/-- The call that begins with this errand. -/
def edit? : Errand → Option Edit
  | .linkRole roleId menuId => some (.linkRoleMenu roleId menuId)
  | .resourceMenu resource => some (.upsertResource resource)
  | .menuDrop menuId => some (.deleteMenu menuId)
  | .roleDrop roleId => some (.deleteRole roleId)
  | _ => none

def puts? : Errand → Option Reference
  | .linkPut roleId menuId => some (.link roleId menuId)
  | .resourcePut resource => some (.resource resource)
  | _ => none

/-- Whether a deletion is still going to take the row. -/
def drops : Errand → Reference → Bool
  | .menuResources doomed, reference => doomed.contains reference.menuId
  | .menuLinks doomed, .link _ menuId => doomed.contains menuId
  | .roleLinks roleId, .link other _ => other == roleId
  | _, _ => false

def isFinished : Errand → Bool
  | .finished _ => true
  | _ => false

def sections : Errand → Nat
  | .linkRole _ _ => 3
  | .linkMenu _ _ => 2
  | .linkPut _ _ => 1
  | .resourceMenu _ => 2
  | .resourcePut _ => 1
  | .menuDrop _ => 3
  | .menuResources _ => 2
  | .menuLinks _ => 1
  | .roleDrop _ => 2
  | .roleLinks _ => 1
  | .finished _ => 0

variable {store : Store} {errand : Errand} {reference : Reference}

theorem isFinished_iff (errand : Errand) : errand.isFinished = true ↔ errand.sections = 0 := by
  cases errand <;> simp [isFinished, sections]

theorem sections_step (store : Store) (errand : Errand) :
    (errand.step store).2.sections ≤ errand.sections - 1 := by
  cases errand <;> simp only [step] <;> (try split) <;> simp [sections]

theorem isIn_of_step (inside : reference.IsIn (errand.step store).1) :
    reference.IsIn store ∨ errand.puts? = some reference := by
  cases errand with
  | linkPut roleId menuId =>
      cases reference with
      | link otherRole otherMenu =>
          rcases (store.links_putLink roleId menuId otherRole otherMenu).mp inside with
            old | ⟨rfl, rfl⟩
          · exact .inl old
          · exact .inr rfl
      | resource row => exact .inl inside
  | resourcePut resource =>
      cases reference with
      | link roleId menuId => exact .inl inside
      | resource row =>
          obtain ⟨id, found⟩ := inside
          simp only [step, Store.putResource, Table.get?_insert] at found
          split at found
          · cases found
            exact .inr rfl
          · exact .inl ⟨id, found⟩
  | menuResources doomed =>
      cases reference with
      | link roleId menuId => exact .inl inside
      | resource row =>
          obtain ⟨id, found⟩ := inside
          exact .inl ⟨id, ((Store.get?_dropMenuResources store doomed id row).mp found).2⟩
  | menuLinks doomed =>
      cases reference with
      | link roleId menuId =>
          exact .inl ((Store.links_dropMenuLinks store doomed roleId menuId).mp inside).2
      | resource row => exact .inl inside
  | roleLinks roleId =>
      cases reference with
      | link other menuId =>
          exact .inl ((Store.links_dropRoleLinks store roleId other menuId).mp inside).2
      | resource row => exact .inl inside
  | _ =>
      left
      revert inside
      simp only [step]
      try split
      all_goals cases reference <;> exact id

theorem resolves_dropMenus (store : Store) (doomed : List String) (reference : Reference) :
    reference.resolves (store.dropMenus doomed) =
      (reference.resolves store && !(menuResources doomed).drops reference) := by
  rw [Bool.eq_iff_iff]
  cases reference with
  | link roleId menuId =>
      have kept := Store.contains_dropMenus store doomed menuId
      simp only [Reference.resolves, Bool.and_eq_true, kept, drops, Reference.menuId]
      simp [Store.dropMenus, and_assoc, and_comm]
  | resource row =>
      simp only [Reference.resolves, Bool.and_eq_true, Store.contains_dropMenus, drops,
        Reference.menuId]
      simp [and_comm]

theorem resolves_dropRole (store : Store) (roleId : String) (reference : Reference) :
    reference.resolves (store.dropRole roleId) =
      (reference.resolves store && !(roleLinks roleId).drops reference) := by
  rw [Bool.eq_iff_iff]
  cases reference with
  | link other menuId =>
      have kept := Table.contains_erase store.roles roleId other
      simp only [Reference.resolves, Bool.and_eq_true, Store.dropRole, kept, drops]
      simp [and_comm, and_left_comm]
  | resource row => simp [Reference.resolves, Store.dropRole, drops]

theorem resolves_step (store : Store) (errand : Errand) (reference : Reference) :
    reference.resolves (errand.step store).1 = reference.resolves store ∨
      reference.resolves (errand.step store).1 =
        (reference.resolves store && !(errand.step store).2.drops reference) := by
  cases errand with
  | menuDrop menuId =>
      simp only [step]
      split
      · exact .inl rfl
      next menu found => exact .inr (resolves_dropMenus store _ reference)
  | roleDrop roleId =>
      simp only [step]
      split
      · exact .inr (resolves_dropRole store roleId reference)
      · exact .inl rfl
  | _ =>
      left
      simp only [step]
      try split
      all_goals cases reference <;> rfl

theorem resolves_of_step (resolved : reference.resolves (errand.step store).1 = true) :
    reference.resolves store = true := by
  rcases resolves_step store errand reference with same | less
  · rw [← same, resolved]
  · rw [less, Bool.and_eq_true] at resolved
    exact resolved.1

theorem drops_step (awaited : errand.drops reference = true)
    (inside : reference.IsIn (errand.step store).1) :
    (errand.step store).2.drops reference = true := by
  cases errand with
  | menuResources doomed =>
      cases reference with
      | link roleId menuId => exact awaited
      | resource row =>
          obtain ⟨id, found⟩ := inside
          have spared := ((Store.get?_dropMenuResources store doomed id row).mp found).1
          exact absurd (List.contains_iff_mem.mp awaited) spared
  | menuLinks doomed =>
      cases reference with
      | link roleId menuId =>
          have spared := ((Store.links_dropMenuLinks store doomed roleId menuId).mp inside).1
          exact absurd (List.contains_iff_mem.mp awaited) spared
      | resource row => cases awaited
  | roleLinks roleId =>
      cases reference with
      | link other menuId =>
          have apart := ((Store.links_dropRoleLinks store roleId other menuId).mp inside).1
          exact absurd (beq_iff_eq.mp awaited) apart
      | resource row => cases awaited
  | _ => cases reference <;> cases awaited

/-- The call deletes nothing, and what it has looked up is stored. -/
def isChecked (store : Store) : Errand → Bool
  | .linkRole _ _ => true
  | .linkMenu roleId _ => store.roles.contains roleId
  | .linkPut roleId menuId => (Reference.link roleId menuId).resolves store
  | .resourceMenu _ => true
  | .resourcePut resource => (Reference.resource resource).resolves store
  | .finished _ => true
  | _ => false

theorem isChecked_of_same {after : Store} (roles : after.roles = store.roles)
    (menus : after.menus = store.menus) (errand : Errand) :
    errand.isChecked after = errand.isChecked store := by
  cases errand <;> simp [isChecked, Reference.resolves, roles, menus]

theorem isChecked_step (checked : errand.isChecked store = true) :
    (errand.step store).1.roles = store.roles ∧ (errand.step store).1.menus = store.menus ∧
      (errand.step store).2.isChecked store = true := by
  cases errand with
  | linkRole roleId menuId =>
      simp only [step]
      split
      · exact ⟨rfl, rfl, rfl⟩
      next found => exact ⟨rfl, rfl, Store.contains_of_requireRole found⟩
  | linkMenu roleId menuId =>
      simp only [step]
      split
      · exact ⟨rfl, rfl, rfl⟩
      next found =>
        refine ⟨rfl, rfl, ?_⟩
        rw [isChecked] at checked
        rw [isChecked, Reference.resolves, checked, Store.contains_of_requireMenu found]
        rfl
  | resourceMenu resource =>
      simp only [step]
      split
      · exact ⟨rfl, rfl, rfl⟩
      next found => exact ⟨rfl, rfl, Store.contains_of_requireMenu found⟩
  | linkPut roleId menuId => exact ⟨rfl, rfl, rfl⟩
  | resourcePut resource => exact ⟨rfl, rfl, rfl⟩
  | finished answer => exact ⟨rfl, rfl, rfl⟩
  | _ => cases checked

theorem drops_of_isChecked (checked : errand.isChecked store = true) :
    errand.drops reference = false := by
  cases errand <;> first | rfl | cases checked

theorem resolves_of_isChecked (checked : errand.isChecked store = true)
    (put : errand.puts? = some reference) : reference.resolves store = true := by
  cases errand <;> cases put <;> exact checked

end Errand

/-! ## Many calls at once -/

structure Crowd where
  store : Store
  errands : List Errand

namespace Crowd

def advance (crowd : Crowd) (index : Nat) : Crowd :=
  match crowd.errands[index]? with
  | none => crowd
  | some errand =>
      ⟨(errand.step crowd.store).1, crowd.errands.set index (errand.step crowd.store).2⟩

def run (crowd : Crowd) : List Nat → Crowd
  | [] => crowd
  | index :: schedule => (crowd.advance index).run schedule

def isFinished (crowd : Crowd) : Bool :=
  crowd.errands.all Errand.isFinished

/-- Some deletion that is under way is going to take the row. -/
def awaits (crowd : Crowd) (reference : Reference) : Bool :=
  crowd.errands.any fun errand => errand.drops reference

/-- What the next section of a call puts though something that it names is not stored, and no
deletion is going to take it. -/
def late? (crowd : Crowd) (index : Nat) : Option Reference :=
  ((crowd.errands[index]?).bind Errand.puts?).filter fun reference =>
    !(reference.resolves crowd.store || crowd.awaits reference)

def lates (crowd : Crowd) : List Nat → List Reference
  | [] => []
  | index :: schedule => (crowd.late? index).toList ++ (crowd.advance index).lates schedule

/-- A row names what is not stored, and nothing is going to take it. -/
structure Dangles (crowd : Crowd) (reference : Reference) : Prop where
  inside : reference.IsIn crowd.store
  unresolved : reference.resolves crowd.store = false
  unawaited : crowd.awaits reference = false

variable {crowd : Crowd} {index : Nat} {reference : Reference} {errand : Errand}

theorem advance_of_found (found : crowd.errands[index]? = some errand) :
    crowd.advance index =
      ⟨(errand.step crowd.store).1, crowd.errands.set index (errand.step crowd.store).2⟩ := by
  rw [advance, found]

theorem advance_of_none (missing : crowd.errands[index]? = none) :
    crowd.advance index = crowd := by
  rw [advance, missing]

theorem awaits_eq_false_iff :
    crowd.awaits reference = false ↔ ∀ errand ∈ crowd.errands, errand.drops reference = false := by
  simp [awaits]

/-- Nothing dangles after a section but what did before, and what the section put too late. -/
theorem dangles_advance (dangles : (crowd.advance index).Dangles reference) :
    crowd.Dangles reference ∨ crowd.late? index = some reference := by
  cases found : crowd.errands[index]? with
  | none =>
      rw [advance_of_none found] at dangles
      exact .inl dangles
  | some errand =>
      rw [advance_of_found found] at dangles
      obtain ⟨inside, unresolved, unawaited⟩ := dangles
      rw [awaits_eq_false_iff] at unawaited
      have placed : index < crowd.errands.length := (List.getElem?_eq_some_iff.mp found).1
      have own : (errand.step crowd.store).2.drops reference = false :=
        unawaited _ (List.mem_set placed _)
      -- What takes a named row takes the row that names it as well, and nothing is to take this
      -- one.
      have before : reference.resolves crowd.store = false := by
        rcases Errand.resolves_step crowd.store errand reference with same | less
        · rw [← same]
          exact unresolved
        · rw [own, Bool.not_false, Bool.and_true] at less
          rw [← less]
          exact unresolved
      have alone : crowd.awaits reference = false := by
        rw [awaits_eq_false_iff]
        intro other member
        by_contra awaited
        rw [Bool.not_eq_false] at awaited
        obtain ⟨place, there⟩ := List.mem_iff_getElem?.mp member
        by_cases same : place = index
        · rw [same, found] at there
          cases there
          rw [Errand.drops_step awaited inside] at own
          cases own
        · have still : (crowd.errands.set index (errand.step crowd.store).2)[place]? =
              some other := by
            rw [List.getElem?_set_ne (Ne.symm same), there]
          rw [unawaited other (List.mem_of_getElem? still)] at awaited
          cases awaited
      rcases Errand.isIn_of_step inside with old | put
      · exact .inl ⟨old, before, alone⟩
      · right
        rw [late?, found, Option.bind_some, put]
        simp [Option.filter, before, alone]

/-- What is put too late names something that is not stored, and that stays so. -/
theorem unresolved_of_late (late : crowd.late? index = some reference) :
    reference.resolves crowd.store = false := by
  obtain ⟨-, apart⟩ := Option.filter_eq_some_iff.mp late
  simp only [Bool.not_or, Bool.and_eq_true, Bool.not_eq_true'] at apart
  exact apart.1

theorem unresolved_advance (unresolved : reference.resolves crowd.store = false) :
    reference.resolves (crowd.advance index).store = false := by
  cases found : crowd.errands[index]? with
  | none =>
      rw [advance_of_none found]
      exact unresolved
  | some errand =>
      rw [advance_of_found found]
      rw [Bool.eq_false_iff] at unresolved ⊢
      exact fun resolved => unresolved (Errand.resolves_of_step resolved)

theorem unresolved_run (schedule : List Nat)
    (unresolved : reference.resolves crowd.store = false) :
    reference.resolves (crowd.run schedule).store = false := by
  induction schedule generalizing crowd with
  | nil => exact unresolved
  | cons index rest ih => exact ih (unresolved_advance unresolved)

theorem unresolved_of_mem_lates {schedule : List Nat} (member : reference ∈ crowd.lates schedule) :
    reference.resolves (crowd.run schedule).store = false := by
  induction schedule generalizing crowd with
  | nil => cases member
  | cons index rest ih =>
      rw [lates, List.mem_append, Option.mem_toList] at member
      rcases member with now | later
      · exact unresolved_run rest (unresolved_advance (unresolved_of_late now))
      · exact ih later

theorem dangles_run {schedule : List Nat} (dangles : (crowd.run schedule).Dangles reference) :
    crowd.Dangles reference ∨ reference ∈ crowd.lates schedule := by
  induction schedule generalizing crowd with
  | nil => exact .inl dangles
  | cons index rest ih =>
      rw [lates, List.mem_append, Option.mem_toList]
      rcases ih dangles with before | later
      · rcases dangles_advance before with old | now
        · exact .inl old
        · exact .inr (.inl now)
      · exact .inr (.inr later)

theorem awaits_of_isFinished (finished : crowd.isFinished = true) (reference : Reference) :
    crowd.awaits reference = false := by
  rw [awaits_eq_false_iff]
  intro errand member
  have done := List.all_eq_true.mp finished errand member
  cases errand <;> first | rfl | cases done

/-! ## Where nothing is deleted -/

def IsChecked (crowd : Crowd) : Prop :=
  ∀ errand ∈ crowd.errands, errand.isChecked crowd.store = true

theorem IsChecked.advance (checked : crowd.IsChecked) (index : Nat) :
    (crowd.advance index).IsChecked := by
  cases found : crowd.errands[index]? with
  | none =>
      rw [advance_of_none found]
      exact checked
  | some errand =>
      rw [advance_of_found found]
      obtain ⟨roles, menus, next⟩ :=
        Errand.isChecked_step (checked errand (List.mem_of_getElem? found))
      intro other member
      rw [Errand.isChecked_of_same roles menus]
      rcases List.mem_or_eq_of_mem_set member with old | rfl
      · exact checked other old
      · exact next

theorem IsChecked.late?_eq_none (checked : crowd.IsChecked) (index : Nat) :
    crowd.late? index = none := by
  rw [late?, Option.filter_eq_none_iff]
  intro reference put
  obtain ⟨errand, found, own⟩ := Option.bind_eq_some_iff.mp put
  rw [Errand.resolves_of_isChecked (checked errand (List.mem_of_getElem? found)) own]
  simp

theorem IsChecked.lates_eq_nil (checked : crowd.IsChecked) (schedule : List Nat) :
    crowd.lates schedule = [] := by
  induction schedule generalizing crowd with
  | nil => rfl
  | cons index rest ih =>
      rw [lates, checked.late?_eq_none index, ih (checked.advance index)]
      rfl

theorem IsChecked.run (checked : crowd.IsChecked) (schedule : List Nat) :
    (crowd.run schedule).IsChecked := by
  induction schedule generalizing crowd with
  | nil => exact checked
  | cons index rest ih => exact ih (checked.advance index)

theorem IsChecked.awaits_eq_false (checked : crowd.IsChecked) (reference : Reference) :
    crowd.awaits reference = false :=
  awaits_eq_false_iff.mpr fun errand member => Errand.drops_of_isChecked (checked errand member)

/-! ## Every call comes to an end -/

theorem sections_advance {turn : Nat}
    (found : (crowd.advance turn).errands[index]? = some errand) :
    ∃ first, crowd.errands[index]? = some first ∧
      errand.sections ≤ first.sections - [turn].count index := by
  cases there : crowd.errands[turn]? with
  | none =>
      rw [advance_of_none there] at found
      refine ⟨errand, found, ?_⟩
      have apart : turn ≠ index := by
        rintro rfl
        rw [there] at found
        cases found
      simp [apart]
  | some other =>
      rw [advance_of_found there] at found
      by_cases same : turn = index
      · subst same
        have placed := (List.getElem?_eq_some_iff.mp there).1
        rw [List.getElem?_set_self placed] at found
        cases found
        refine ⟨other, there, ?_⟩
        simpa using Errand.sections_step crowd.store other
      · rw [List.getElem?_set_ne same] at found
        exact ⟨errand, found, by simp [same]⟩

theorem sections_run {schedule : List Nat}
    (found : (crowd.run schedule).errands[index]? = some errand) :
    ∃ first, crowd.errands[index]? = some first ∧
      errand.sections ≤ first.sections - schedule.count index := by
  induction schedule generalizing crowd with
  | nil => exact ⟨errand, found, by simp⟩
  | cons turn rest ih =>
      obtain ⟨middle, between, fewer⟩ := ih found
      obtain ⟨first, begun, less⟩ := sections_advance between
      refine ⟨first, begun, ?_⟩
      rw [List.count_cons]
      rw [List.count_singleton] at less
      omega

/-- Three turns are enough for each call. -/
theorem isFinished_run (crowd : Crowd) {schedule : List Nat}
    (turns : ∀ index < crowd.errands.length, 3 ≤ schedule.count index) :
    (crowd.run schedule).isFinished = true := by
  rw [isFinished, List.all_eq_true]
  intro errand member
  obtain ⟨index, found⟩ := List.mem_iff_getElem?.mp member
  obtain ⟨first, begun, less⟩ := sections_run found
  have enough := turns index (List.getElem?_eq_some_iff.mp begun).1
  have most : first.sections ≤ 3 := by
    cases first <;> simp [Errand.sections]
  rw [Errand.isFinished_iff]
  omega

theorem run_alone (store : Store) {errand : Errand} {edit : Edit}
    (begins : errand.edit? = some edit) :
    (⟨store, [errand]⟩ : Crowd).run [0, 0, 0] =
      ⟨(store.edit edit).1, [.finished (store.edit edit).2]⟩ := by
  have single : ∀ (store : Store) (errand : Errand), (⟨store, [errand]⟩ : Crowd).advance 0 =
      ⟨(errand.step store).1, [(errand.step store).2]⟩ := fun _ _ => rfl
  simp only [run, single]
  cases errand with
  | linkRole roleId menuId =>
      cases begins
      cases role : store.requireRole roleId with
      | error refusal => simp [Errand.step, Store.edit, Store.linkRoleMenu, role]
      | ok _ =>
          cases menu : store.requireMenu menuId with
          | error refusal => simp [Errand.step, Store.edit, Store.linkRoleMenu, role, menu]
          | ok _ => simp [Errand.step, Store.edit, Store.linkRoleMenu, role, menu]
  | resourceMenu resource =>
      cases begins
      cases menu : store.requireMenu resource.menuId with
      | error refusal => simp [Errand.step, Store.edit, Store.upsertResource, menu]
      | ok _ => simp [Errand.step, Store.edit, Store.upsertResource, menu]
  | menuDrop menuId =>
      cases begins
      cases found : store.menus.get? menuId with
      | none => simp [Errand.step, Store.edit, Store.deleteMenu, found, Except.map]
      | some menu => simp [Errand.step, Store.edit, Store.deleteMenu, found, Except.map]
  | roleDrop roleId =>
      cases begins
      cases present : store.roles.contains roleId with
      | false => simp [Errand.step, Store.edit, Store.deleteRole, present]
      | true => simp [Errand.step, Store.edit, Store.deleteRole, present]
  | _ => cases begins

/-- While no deletion has anything left to take, rows name what is stored exactly if all that
was put too late is gone. -/
theorem resolved_run_iff (crowd : Crowd) (resolved : crowd.store.Resolved) {schedule : List Nat}
    (settled : ∀ reference, (crowd.run schedule).awaits reference = false) :
    (crowd.run schedule).store.Resolved ↔
      ∀ reference ∈ crowd.lates schedule, ¬ reference.IsIn (crowd.run schedule).store := by
  constructor
  · intro whole reference member inside
    have missing := unresolved_of_mem_lates member
    rw [whole reference inside] at missing
    cases missing
  · intro gone reference inside
    by_contra missing
    rw [Bool.not_eq_true] at missing
    rcases dangles_run ⟨inside, missing, settled reference⟩ with before | member
    · have stored := resolved reference before.inside
      rw [before.unresolved] at stored
      cases stored
    · exact gone reference member inside

end Crowd

/-- Calls side by side on a store whose rows name what is stored, under any schedule.  Each has
ended when it has had three turns.  Once all have ended every row names what is stored, exactly
if each row that was put too late has been taken since.  Links and resources that are put side
by side, with nothing deleted, name what is stored all the time. -/
theorem rows_dangle_exactly_if_put_too_late {store : Store} (resolved : store.Resolved)
    (errands : List Errand) (schedule : List Nat) :
    let crowd : Crowd := ⟨store, errands⟩
    let final := crowd.run schedule
    ((∀ index < errands.length, 3 ≤ schedule.count index) → final.isFinished = true) ∧
      (final.isFinished = true → (final.store.Resolved ↔
        ∀ reference ∈ crowd.lates schedule, ¬ reference.IsIn final.store)) ∧
      ((∀ errand ∈ errands, errand.isChecked store = true) → final.store.Resolved) := by
  intro crowd final
  refine ⟨crowd.isFinished_run, ?_, ?_⟩
  · intro finished
    exact crowd.resolved_run_iff resolved (Crowd.awaits_of_isFinished finished)
  · intro begun
    have checked : crowd.IsChecked := begun
    have settled := (checked.run schedule).awaits_eq_false
    rw [crowd.resolved_run_iff resolved settled, checked.lates_eq_nil schedule]
    intro reference member
    cases member

def unjoinedStore : Store :=
  (Store.empty.upsertRole { id := "r" }).upsertMenu { id := "m" }

theorem resolved_unjoinedStore : unjoinedStore.Resolved :=
  ((Store.Fits.empty.edit (.upsertRole { id := "r" })).edit (.upsertMenu { id := "m" })).resolved

/-- A link is put when its menu is gone, but the deletion has not come to the links yet. -/
theorem link_ahead_of_the_cascade_is_taken :
    let crowd : Crowd := ⟨unjoinedStore, [.linkRole "r" "m", .menuDrop "m"]⟩
    let final := crowd.run [0, 0, 1, 0, 1, 1]
    final.isFinished = true ∧ final.store.Resolved := by
  intro crowd final
  obtain ⟨ended, whole, -⟩ := rows_dangle_exactly_if_put_too_late resolved_unjoinedStore
    crowd.errands [0, 0, 1, 0, 1, 1]
  have finished : final.isFinished = true := ended (by decide)
  have punctual : crowd.lates [0, 0, 1, 0, 1, 1] = [] := by decide
  refine ⟨finished, (whole finished).mpr ?_⟩
  intro reference member
  rw [punctual] at member
  cases member

/-- The role and the menu have been looked up when the menu is deleted with all its links, and
the link is put after that: it stays, and grants the menu that is stored again under this id. -/
theorem link_behind_the_cascade_stays :
    let crowd : Crowd := ⟨unjoinedStore, [.linkRole "r" "m", .menuDrop "m"]⟩
    let final := crowd.run [0, 0, 1, 1, 1, 0]
    unjoinedStore.Resolved ∧ final.errands = [.finished (.ok ()), .finished (.ok ())] ∧
      final.isFinished = true ∧ final.store.Links "r" "m" ∧
      final.store.menus.contains "m" = false ∧ ¬ final.store.Resolved ∧
      (final.store.upsertMenu { id := "m" }).roleMenus "r" = [{ id := "m" : Menu }.ref] := by
  intro crowd final
  have linked : final.store.links.get? "r" = some ["m"] := by decide +kernel
  have gone : final.store.menus.contains "m" = false := by decide +kernel
  have link : final.store.Links "r" "m" := ⟨["m"], linked, List.mem_singleton_self "m"⟩
  refine ⟨resolved_unjoinedStore, rfl, by decide +kernel, link, gone, ?_, by decide +kernel⟩
  intro whole
  have stored : (Reference.link "r" "m").resolves final.store = true := whole _ link
  rw [Reference.resolves, gone, Bool.and_false] at stored
  cases stored

end RoleGrants
