import RoleGrants.Policy.Compiled
import RoleGrants.Policy.Gather
import RoleGrants.Proofs.Ordering
import RoleGrants.Proofs.Store.Parents

/-! # What gathering comes to

On the way up the tree every id that is known is still to be asked about, or its
parent is known too (`Climb`).  When nothing is left to be asked the known ids are
those that the role reaches, however the paths of the menus are filled in, and the
rows that are kept stand for every resource of these menus (`Holds`). -/

set_option autoImplicit false

namespace RoleGrants

open Store

structure Holds (store : Store) (holding : Holding) : Prop where
  granted : ∀ resource ∈ holding.resources,
    resource ∈ store.resources.values ∧ store.Reaches holding.roleId resource.menuId
  whole : ∀ resource ∈ store.resources.values, store.Reaches holding.roleId resource.menuId →
    ∃ kept ∈ holding.resources, kept.key = resource.key

namespace Gather

def ParentKnown (store : Store) (known : List String) (id : String) : Prop :=
  ∀ menu, store.menus.get? id = some menu → menu.parentId ≠ "" → menu.parentId ∈ known

/-- The way up for a role, with what is known and what is still to be looked at. -/
structure Climb (store : Store) (roleId : String) (known pending : List String) : Prop where
  reached : ∀ id ∈ known, store.Reaches roleId id
  linked : ∀ linked id menu, store.links.get? roleId = some linked → id ∈ linked →
    store.menus.get? id = some menu → menu.status = .enabled → id ∈ known
  awaited : ∀ id ∈ pending, id ∈ known
  climbed : ∀ id ∈ known, id ∈ pending ∨ ParentKnown store known id

namespace Climb

variable {store : Store} {roleId : String} {known pending wanted : List String}

theorem grow {grown wider : List String} {id : String}
    (climb : Climb store roleId known (wanted ++ id :: pending))
    (kept : ∀ other ∈ known, other ∈ grown) (keptWanted : ∀ other ∈ wanted, other ∈ wider)
    (wanting : ∀ other ∈ wider, other ∈ grown) (looked : ParentKnown store grown id)
    (new : ∀ other ∈ grown, other ∈ known ∨
      store.Reaches roleId other ∧ (other ∈ wider ∨ ParentKnown store grown other)) :
    Climb store roleId grown (wider ++ pending) where
  reached other member := by
    rcases new other member with old | ⟨reached, _⟩
    · exact climb.reached other old
    · exact reached
  linked linked other menu links member found enabled :=
    kept other (climb.linked linked other menu links member found enabled)
  awaited other member := by
    rcases List.mem_append.mp member with asked | ahead
    · exact wanting other asked
    · exact kept other (climb.awaited other (by simp [ahead]))
  climbed other member := by
    have mono : ParentKnown store known other → ParentKnown store grown other :=
      fun parent menu found named => kept _ (parent menu found named)
    rcases new other member with old | ⟨_, asked | parent⟩
    · rcases climb.climbed other old with ahead | parent
      · rw [List.mem_append, List.mem_cons] at ahead
        rcases ahead with asked | rfl | later
        · exact .inl (List.mem_append_left _ (keptWanted other asked))
        · exact .inr looked
        · exact .inl (List.mem_append_right _ later)
      · exact .inr (mono parent)
    · exact .inl (List.mem_append_left _ asked)
    · exact .inr parent

theorem parentKnown_of_found {grown : List String} {menu : Menu}
    (found : store.menus.get? menu.id = some menu)
    (parent : menu.parentId ≠ "" → menu.parentId ∈ grown) : ParentKnown store grown menu.id := by
  intro other met
  rw [found] at met
  cases met
  exact parent

theorem ancestors_climbed (paths : store.PathsAgree) {menu : Menu}
    (found : store.menus.get? menu.id = some menu) (reached : store.Reaches roleId menu.id)
    {id : String} (member : id ∈ ancestorIds menu.parentPath) :
    store.Reaches roleId id ∧ ParentKnown store (ancestorIds menu.parentPath) id := by
  rcases paths menu.id menu found with empty | whole
  · rw [empty] at member
    cases member
  · have below := (whole id).mp member
    refine ⟨reached.of_isBelow below, ?_⟩
    intro other met named
    exact (whole _).mpr (below.tail ⟨other, met, rfl, named⟩)

theorem visit (paths : store.PathsAgree) {menu : Menu}
    (found : store.menus.get? menu.id = some menu)
    (climb : Climb store roleId known (wanted ++ menu.id :: pending)) :
    Climb store roleId (Gather.visit known wanted menu.ref).1
      ((Gather.visit known wanted menu.ref).2 ++ pending) := by
  have reached := climb.reached menu.id (climb.awaited menu.id (by simp))
  have seen : ∀ id, id ∈ insertAll (ancestorIds menu.parentPath) known ↔
      id ∈ ancestorIds menu.parentPath ∨ id ∈ known :=
    fun id => text_strictOrder.mem_insertAll _ _ id
  have isRef : menu.ref.parentId = menu.parentId ∧ menu.ref.parentPath = menu.parentPath :=
    ⟨rfl, rfl⟩
  -- The parent is wanted as new, or it is known already, be it from this path or from before.
  rw [Gather.visit, isRef.1, isRef.2]
  split
  next fresh =>
    obtain ⟨parent, _, _⟩ := fresh
    have grows : ∀ id, id ∈ insertNew menu.parentId
        (insertAll (ancestorIds menu.parentPath) known) ↔
        id = menu.parentId ∨ id ∈ ancestorIds menu.parentPath ∨ id ∈ known := by
      intro id
      rw [mem_insertNew text_strictOrder.connected, seen]
    refine climb.grow ?_ ?_ ?_ ?_ ?_
    · intro id old
      exact (grows id).mpr (.inr (.inr old))
    · intro id asked
      exact List.mem_append_left _ asked
    · intro id asked
      rcases List.mem_append.mp asked with before | last
      · exact (grows id).mpr (.inr (.inr (climb.awaited id (List.mem_append_left _ before))))
      · exact (grows id).mpr (.inl (List.mem_singleton.mp last))
    · exact parentKnown_of_found found fun _ => (grows _).mpr (.inl rfl)
    · intro id member
      rcases (grows id).mp member with rfl | path' | old
      · exact .inr ⟨.parent reached found parent, .inl (by simp)⟩
      · obtain ⟨reaches, parents⟩ := ancestors_climbed paths found reached path'
        exact .inr ⟨reaches, .inr fun other met upper =>
          (grows _).mpr (.inr (.inl (parents other met upper)))⟩
      · exact .inl old
  next known'' =>
    refine climb.grow ?_ ?_ ?_ ?_ ?_
    · intro id old
      exact (seen id).mpr (.inr old)
    · exact fun id asked => asked
    · intro id asked
      exact (seen id).mpr (.inr (climb.awaited id (List.mem_append_left _ asked)))
    · refine parentKnown_of_found found ?_
      intro parent
      by_contra unseen
      have unnamed : menu.parentId ∉ ancestorIds menu.parentPath :=
        fun member => unseen ((seen _).mpr (.inl member))
      exact known'' ⟨parent, by simpa using unnamed, by simpa using unseen⟩
    · intro id member
      rcases (seen id).mp member with path' | old
      · obtain ⟨reaches, parents⟩ := ancestors_climbed paths found reached path'
        exact .inr ⟨reaches, .inr fun other met upper =>
          (seen _).mpr (.inl (parents other met upper))⟩
      · exact .inl old

theorem visitAll (paths : store.PathsAgree) {menus : List Menu}
    (found : ∀ menu ∈ menus, store.menus.get? menu.id = some menu)
    (climb : Climb store roleId known (wanted ++ menus.map Menu.id)) :
    Climb store roleId (Gather.visitAll known wanted (menus.map Menu.ref)).1
      (Gather.visitAll known wanted (menus.map Menu.ref)).2 := by
  induction menus generalizing known wanted with
  | nil => simpa [Gather.visitAll] using climb
  | cons menu rest ih =>
      have first := climb.visit paths (found menu List.mem_cons_self)
      exact ih (fun other member => found other (List.mem_cons_of_mem _ member)) first

/-- With nothing left to look at, exactly what the role reaches is known. -/
theorem mem_known (climb : Climb store roleId known []) (id : String) :
    id ∈ known ↔ store.Reaches roleId id := by
  refine ⟨climb.reached id, ?_⟩
  intro reaches
  induction reaches with
  | linked links member found enabled => exact climb.linked _ _ _ links member found enabled
  | parent below found named ih =>
      rcases climb.climbed _ ih with ahead | parent
      · cases ahead
      · exact parent _ found named

end Climb

def Climbing (store : Store) (roleId : String) : Gather → Prop
  | .linked => True
  | .parents known wanted => Climb store roleId known wanted
  | .collect known => Climb store roleId known []
  | .done (.ok resources) => Holds store ⟨roleId, resources⟩
  | .done (.error _) => False

theorem climbing_climb {store : Store} {roleId : String} {known : List String}
    (paths : store.PathsAgree) {menus : List Menu}
    (found : ∀ menu ∈ menus, store.menus.get? menu.id = some menu)
    (start : Climb store roleId known (menus.map Menu.id)) :
    Climbing store roleId (climb known (menus.map Menu.ref)) := by
  have all : Climb store roleId (visitAll known [] (menus.map Menu.ref)).1
      (visitAll known [] (menus.map Menu.ref)).2 := Climb.visitAll paths found start
  rw [climb]
  split
  next seen same =>
    rw [same] at all
    exact all
  next seen wanted _ same =>
    rw [same] at all
    exact all

theorem holds_distinct {store : Store} {roleId : String} {known : List String}
    (climb : Climb store roleId known []) :
    Holds store ⟨roleId, distinct (store.menuResources known)⟩ := by
  obtain ⟨sound, complete⟩ :=
    dropRepeats_sortBy_keeps Resource.key (store.menuResources known)
  have rows : ∀ resource, resource ∈ store.menuResources known ↔
      resource ∈ store.resources.values ∧ resource.menuId ∈ known := by
    intro resource
    simp [menuResources]
  refine ⟨?_, ?_⟩
  · intro resource member
    obtain ⟨present, own⟩ := (rows resource).mp (sound resource member)
    exact ⟨present, (climb.mem_known _).mp own⟩
  · intro resource present reaches
    exact complete resource ((rows resource).mpr ⟨present, (climb.mem_known _).mpr reaches⟩)

theorem climb_linkedMenus {store : Store} (keyed : store.Keyed) (roleId : String) :
    Climb store roleId (ascending ((store.roleMenus roleId).map MenuRef.id))
      ((store.linkedMenus roleId).map Menu.id) := by
  have known : ∀ id, id ∈ ascending ((store.roleMenus roleId).map MenuRef.id) ↔
      id ∈ (store.linkedMenus roleId).map Menu.id := by
    intro id
    rw [text_strictOrder.mem_ascending, roleMenus_eq, List.map_map]
    rfl
  refine ⟨?_, ?_, ?_, ?_⟩
  · intro id member
    obtain ⟨menu, present, rfl⟩ := List.mem_map.mp ((known id).mp member)
    obtain ⟨linked, id, links, own, found, enabled⟩ :=
      (store.mem_linkedMenus roleId menu).mp present
    rw [keyed id menu found]
    exact .linked links own found enabled
  · intro linked id menu links member found enabled
    have present := (store.mem_linkedMenus roleId menu).mpr
      ⟨linked, id, links, member, found, enabled⟩
    exact (known id).mpr (List.mem_map.mpr ⟨menu, present, keyed id menu found⟩)
  · exact fun id member => (known id).mpr member
  · exact fun id member => .inl ((known id).mp member)

theorem climbing_advance {store : Store} (keyed : store.Keyed) (paths : store.PathsAgree)
    {roleId : String} {gather : Gather} (climbing : Climbing store roleId gather) :
    Climbing store roleId (gather.advance (Queries.ofStore store) roleId) := by
  cases gather with
  | linked =>
      have start := climb_linkedMenus keyed roleId
      have answer : (Queries.ofStore store).roleMenus roleId =
          .ok ((store.linkedMenus roleId).map Menu.ref) := rfl
      rw [advance, answer]
      split
      next error failed => cases failed
      next none_ =>
        have empty : store.linkedMenus roleId = [] := by simpa using none_
        rw [roleMenus_eq, empty] at start
        refine ⟨fun resource member => absurd member List.not_mem_nil, ?_⟩
        intro resource _ reaches
        have known := (start.mem_known resource.menuId).mpr reaches
        cases known
      next menus _ some_ =>
        cases some_
        refine climbing_climb paths ?_ start
        intro menu member
        obtain ⟨_, id, _, _, found, _⟩ := (store.mem_linkedMenus roleId menu).mp member
        rw [keyed id menu found]
        exact found
  | parents known wanted =>
      refine climbing_climb paths ?_ ?_
      · intro menu member
        obtain ⟨id, _, found⟩ := List.mem_filterMap.mp member
        rw [keyed id menu found]
        exact found
      · refine ⟨climbing.reached, climbing.linked, ?_, ?_⟩
        · intro id member
          obtain ⟨menu, present, rfl⟩ := List.mem_map.mp member
          obtain ⟨id, asked, found⟩ := List.mem_filterMap.mp present
          rw [keyed id menu found]
          exact climbing.awaited id asked
        · intro id member
          rcases climbing.climbed id member with asked | parent
          · -- An id that no menu stands under has no parent to be known.
            cases found : store.menus.get? id with
            | none =>
                right
                intro menu met
                rw [found] at met
                cases met
            | some menu =>
                left
                refine List.mem_map.mpr ⟨menu, ?_, keyed id menu found⟩
                exact List.mem_filterMap.mpr ⟨id, asked, found⟩
          · exact .inr parent
  | collect known => exact holds_distinct climbing
  | done answer => exact climbing

end Gather
end RoleGrants
