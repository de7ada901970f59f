import RoleGrants.Proofs.Policy.Ascent
import RoleGrants.Proofs.Policy.Gathering

/-! # What a role inherits

Where each path is lost or names just what the parents of its menu lead to, gathering
comes to the enabled menus that the role is linked to and to what their parents lead to,
in whatever mixture the paths are lost and whole (`roles_inherit_along_parents`).
An id that is known and never asked for was named by a path, and such a path names all
that is above it too. -/

set_option autoImplicit false

namespace RoleGrants

open Store

namespace Gather

variable {store : Store} {roleId : String}

theorem climbing_of_leads (keyed : store.Keyed) (paths : store.PathsAgree) {gather later : Gather}
    (climbing : Climbing store roleId gather)
    (leads : Leads (Queries.ofStore store) roleId gather later) :
    Climbing store roleId later := by
  induction leads with
  | refl => exact climbing
  | tail _ step ih =>
      rw [step]
      exact climbing_advance keyed paths ih

theorem mem_collected (keyed : store.Keyed) (paths : store.PathsAgree) {known : List String}
    (leads : Leads (Queries.ofStore store) roleId .linked (.collect known)) (id : String) :
    id ∈ known ↔ store.Reaches roleId id := by
  have begun : Climbing store roleId .linked := trivial
  have climb : Climb store roleId known [] := climbing_of_leads keyed paths begun leads
  exact climb.mem_known id

end Gather

theorem Store.PathsAgree.exists_holding {store : Store} (paths : store.PathsAgree)
    (keyed : store.Keyed) (roleId : String) :
    ∃ rows, ({ memory := store } : StoreAccess).resourcesOf roleId = .ok rows ∧
      Holds store ⟨roleId, rows⟩ := by
  have begun : Gather.Climbing store roleId .linked := trivial
  rcases resourcesOf_cases store roleId with ⟨none_, answer⟩ | ⟨known, _, leads, answer⟩
  · have ended : Gather.linked.advance (Queries.ofStore store) roleId = .done (.ok []) := by
      have asked : (Queries.ofStore store).roleMenus roleId = .ok (store.roleMenus roleId) := rfl
      rw [Gather.advance, asked, none_]
    have held := Gather.climbing_advance keyed paths begun
    rw [ended] at held
    exact ⟨[], answer, held⟩
  · exact ⟨_, answer, Gather.holds_distinct (Gather.climbing_of_leads keyed paths begun leads)⟩

/-- Each path may be lost, or name just what the parents of its menu lead to: then the menus whose
resources a role is given are the enabled ones that it is linked to and those that their parents
lead to, enabled or not, and of no others is any resource among them. -/
theorem roles_inherit_along_parents {store : Store} (keyed : store.Keyed)
    (paths : store.PathsAgree) (roleId : String) :
    (store.linkedMenus roleId ≠ [] → ∃ known,
      Gather.Leads (Queries.ofStore store) roleId .linked (.collect known) ∧
        ∀ id, id ∈ known ↔ ∃ menu ∈ store.linkedMenus roleId, store.IsWithin menu.id id) ∧
      ∃ rows, ({ memory := store } : StoreAccess).resourcesOf roleId = .ok rows ∧
        (∀ row ∈ rows, row ∈ store.resources.values ∧
          ∃ menu ∈ store.linkedMenus roleId, store.IsWithin menu.id row.menuId) ∧
        ∀ resource ∈ store.resources.values,
          (∃ menu ∈ store.linkedMenus roleId, store.IsWithin menu.id resource.menuId) →
            ∃ row ∈ rows, row.key = resource.key := by
  refine ⟨?_, ?_⟩
  · intro some_
    rcases resourcesOf_cases store roleId with ⟨none_, _⟩ | ⟨known, _, leads, _⟩
    · rw [roleMenus_eq, List.map_eq_nil_iff] at none_
      exact absurd none_ some_
    · refine ⟨known, leads, ?_⟩
      intro id
      rw [Gather.mem_collected keyed paths leads, reaches_iff keyed]
  · obtain ⟨rows, answer, holds⟩ := paths.exists_holding keyed roleId
    refine ⟨rows, answer, ?_, ?_⟩
    · intro row member
      obtain ⟨stored, reached⟩ := holds.granted row member
      exact ⟨stored, (reaches_iff keyed roleId).mp reached⟩
    · intro resource stored within
      exact holds.whole resource stored ((reaches_iff keyed roleId).mpr within)

def lostBranch : Store where
  menus :=
    { rows := [("home", { id := "home" }),
        ("page", { id := "page", parentId := "home", status := .disabled }),
        ("button", { id := "button", parentId := "page", parentPath := "page.home." }),
        ("other", { id := "other", parentId := "home", parentPath := "home." })]
      distinct := by decide }
  links := { rows := [("r", ["button"])] }
  resources :=
    { rows := [("1", ⟨"1", "home", "GET", "/home"⟩), ("2", ⟨"2", "other", "GET", "/other"⟩)]
      distinct := by decide }

theorem above_button : lostBranch.Above
    { id := "button", parentId := "page", parentPath := "page.home." } ["home", "page"] := by
  have page : lostBranch.Above { id := "page", parentId := "home", status := .disabled }
      ["home"] := .child (by decide) rfl (.root rfl)
  exact .child (by decide) rfl page

theorem pathsAgree_lostBranch : lostBranch.Keyed ∧ lostBranch.PathsAgree := by
  have only : ∀ id menu, lostBranch.menus.get? id = some menu →
      (id, menu) ∈ lostBranch.menus.rows :=
    fun id menu found => (lostBranch.menus.mem_rows id menu).mpr found
  have other : lostBranch.Above { id := "other", parentId := "home", parentPath := "home." }
      ["home"] := .child (by decide) rfl (.root rfl)
  refine ⟨?_, ?_⟩
  · intro id menu found
    have row := only id menu found
    simp only [lostBranch, List.mem_cons, List.not_mem_nil, or_false, Prod.mk.injEq] at row
    rcases row with ⟨rfl, rfl⟩ | ⟨rfl, rfl⟩ | ⟨rfl, rfl⟩ | ⟨rfl, rfl⟩ <;> rfl
  · intro id menu found
    have row := only id menu found
    simp only [lostBranch, List.mem_cons, List.not_mem_nil, or_false, Prod.mk.injEq] at row
    rcases row with ⟨rfl, rfl⟩ | ⟨rfl, rfl⟩ | ⟨rfl, rfl⟩ | ⟨rfl, rfl⟩
    · exact .inl rfl
    · exact .inl rfl
    · right
      intro upper
      have names : ancestorIds "page.home." = ["page", "home"] := by decide
      rw [← above_button.mem_iff found, names]
      simp [or_comm]
    · right
      intro upper
      have names : ancestorIds "home." = ["home"] := by decide
      rw [← other.mem_iff found, names]

/-- The button brings what is two levels above it, and nothing of the page beside. -/
theorem button_brings_home_alone :
    lostBranch.Keyed ∧ lostBranch.PathsAgree ∧
      ∃ rows, ({ memory := lostBranch } : StoreAccess).resourcesOf "r" = .ok rows ∧
        (∃ row ∈ rows, row.key = ["GET", "/home"]) ∧ ∀ row ∈ rows, row.menuId ≠ "other" := by
  obtain ⟨keyed, paths⟩ := pathsAgree_lostBranch
  obtain ⟨_, rows, answer, inherited, whole⟩ := roles_inherit_along_parents keyed paths "r"
  have linked : lostBranch.linkedMenus "r" =
      [{ id := "button", parentId := "page", parentPath := "page.home." }] := by decide
  rw [linked] at inherited whole
  have up : lostBranch.HasParent "button" "page" := ⟨_, rfl, rfl, by decide⟩
  have higher : lostBranch.HasParent "page" "home" := ⟨_, rfl, rfl, by decide⟩
  refine ⟨keyed, paths, rows, answer, ?_, ?_⟩
  · exact whole ⟨"1", "home", "GET", "/home"⟩ List.mem_cons_self
      ⟨_, List.mem_singleton_self _, .tail (.single up) higher⟩
  · rintro row member beside
    obtain ⟨_, menu, only, within⟩ := inherited row member
    rw [List.mem_singleton.mp only, beside] at within
    rcases isWithin_iff.mp within with same | below
    · exact absurd same (by decide)
    · have above := (above_button.mem_iff rfl).mpr below
      exact absurd above (by decide)

end RoleGrants
