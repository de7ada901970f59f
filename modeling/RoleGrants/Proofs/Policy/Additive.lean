import RoleGrants.Proofs.Policy.Ascent
import RoleGrants.Proofs.Store.Parents

/-! # Grants over several links

What a role with several links is given is never more than what the links give one by
one (`exists_alone`): each menu that is looked at on the common way up is looked at, in
the same round, on the way up from one of the links.

It can be less.  A parent that the path of one menu names is known, and is not asked for
on behalf of another menu; if that path leaves out what is above the parent, nothing leads
there.  Links between which this does not happen are `Untangled`, and their grants add up.
They are on every store whose paths are whole, such as a rooted one. -/

set_option autoImplicit false

namespace RoleGrants

namespace Ascent

variable {store : Store} {ascent : Ascent} {linked : List String} {rounds : Nat} {id : String}

theorem after_congr {other : Store}
    (same : ∀ id, other.menus.get? id = store.menus.get? id) (rounds : Nat)
    (ascent : Ascent) : ascent.after other rounds = ascent.after store rounds := by
  have shown : other.menus.get? = store.menus.get? := funext same
  induction rounds with
  | zero => rfl
  | succ rounds ih => rw [after, after, ih, next, next, Store.menuRefs, Store.menuRefs, shown]

theorem wanted_of_single {menu : MenuRef} (single : ascent.frontier = [menu])
    (parent : menu.parentId ≠ "") (unnamed : menu.parentId ∉ ancestorIds menu.parentPath)
    (unknown : menu.parentId ∉ ascent.known) : ascent.wanted = [menu.parentId] := by
  rw [wanted, single]
  exact (Gather.visit_wanted ascent.known [] menu).trans (if_pos ⟨parent, unnamed, unknown⟩)

theorem mem_known_of_names {menu : MenuRef} (member : menu ∈ (ascent.after store rounds).frontier)
    (named : menu.Names id) : id ∈ (ascent.after store (rounds + 1)).known :=
  mem_next_known.mpr (.inl ⟨menu, member, named⟩)

/-- What is known was known at the start, or some round asked for it or met it in a path. -/
theorem known_origin (known : id ∈ (ascent.after store rounds).known) :
    id ∈ ascent.known ∨ ∃ earlier < rounds, id ∈ (ascent.after store earlier).wanted ∨
      ∃ menu ∈ (ascent.after store earlier).frontier, id ∈ ancestorIds menu.parentPath := by
  induction rounds with
  | zero => exact .inl known
  | succ rounds ih =>
      rcases next_known_cases known with before | now
      · rcases ih before with first | ⟨earlier, less, met⟩
        · exact .inl first
        · exact .inr ⟨earlier, Nat.lt_succ_of_lt less, met⟩
      · exact .inr ⟨rounds, Nat.lt_succ_self rounds, now⟩

/-! ## From several links and from one -/

theorem start_single {menuId : String} (member : menuId ∈ linked) :
    (∀ menu ∈ (start store [menuId]).frontier, menu ∈ (start store linked).frontier) ∧
      ∀ id ∈ (start store [menuId]).known, id ∈ (start store linked).known := by
  have frontier : ∀ menu ∈ (start store [menuId]).frontier,
      menu ∈ (start store linked).frontier := by
    intro menu looked
    obtain ⟨id, own, found⟩ := mem_start_frontier.mp looked
    rw [List.mem_singleton] at own
    exact mem_start_frontier.mpr ⟨menuId, member, own ▸ found⟩
  refine ⟨frontier, ?_⟩
  intro id known
  obtain ⟨menu, looked, same⟩ := mem_start_known.mp known
  exact mem_start_known.mpr ⟨menu, frontier menu looked, same⟩

/-- A menu that is looked at for several links is looked at for one of them, in the same round,
with nothing known there that is not known for all. -/
theorem exists_alone {menu : MenuRef}
    (member : menu ∈ ((start store linked).after store rounds).frontier) :
    ∃ menuId ∈ linked, ((start store [menuId]).after store rounds).frontier = [menu] ∧
      ∀ id ∈ ((start store [menuId]).after store rounds).known,
        id ∈ ((start store linked).after store rounds).known := by
  induction rounds generalizing menu with
  | zero =>
      obtain ⟨menuId, own, row, found, enabled, rfl⟩ := mem_start_frontier.mp member
      refine ⟨menuId, own, ?_, (start_single own).2⟩
      simp [after, start, found, enabled]
  | succ rounds ih =>
      obtain ⟨id, asked, row, found, rfl⟩ := mem_next_frontier.mp member
      obtain ⟨unknown, below, looked, rfl, parent, unnamed⟩ := of_mem_wanted asked
      obtain ⟨menuId, own, single, less⟩ := ih looked
      have asks := wanted_of_single single parent unnamed fun known => unknown (less _ known)
      refine ⟨menuId, own, ?_, ?_⟩
      · rw [after, next, asks]
        simp [Store.menuRefs, found]
      · intro other known
        rcases mem_next_known.mp known with ⟨menu, inside, named⟩ | before
        · rw [single, List.mem_singleton] at inside
          exact mem_known_of_names looked (inside ▸ named)
        · exact mem_next_known.mpr (.inr (less other before))

theorem exists_finds_alone (finds : (start store linked).Finds store id) :
    ∃ menuId ∈ linked, (start store [menuId]).Finds store id := by
  obtain ⟨rounds, known⟩ := finds
  induction rounds with
  | zero =>
      obtain ⟨menu, looked, rfl⟩ := mem_start_known.mp known
      obtain ⟨menuId, own, found⟩ := mem_start_frontier.mp looked
      refine ⟨menuId, own, 0, ?_⟩
      exact mem_start_known.mpr ⟨menu, mem_start_frontier.mpr ⟨menuId, by simp, found⟩, rfl⟩
  | succ rounds ih =>
      rcases mem_next_known.mp known with ⟨menu, looked, named⟩ | before
      · obtain ⟨menuId, own, single, _⟩ := exists_alone looked
        exact ⟨menuId, own, rounds + 1, mem_known_of_names (by simp [single]) named⟩
      · exact ih before

end Ascent

open Ascent

namespace Store

/-- On the way up from a link the menu is looked at. -/
def LooksAt (store : Store) (menuId : String) (menu : MenuRef) : Prop :=
  ∃ rounds, menu ∈ ((Ascent.start store [menuId]).after store rounds).frontier

/-- On the way up from a link the id is asked for. -/
def AsksFor (store : Store) (menuId id : String) : Prop :=
  ∃ rounds, id ∈ ((Ascent.start store [menuId]).after store rounds).wanted

/-- Where a path met for one link names a menu that is asked for on behalf of another, it names
what that menu names too. -/
def Untangled (store : Store) (linked : List String) : Prop :=
  ∀ first ∈ linked, ∀ second ∈ linked, first ≠ second → ∀ below id menu,
    store.LooksAt first below → store.AsksFor second id → store.menus.get? id = some menu →
      id ∈ ancestorIds below.parentPath → ∀ name, menu.ref.Names name →
        name ∈ ancestorIds below.parentPath

end Store

/-! ## Stores whose links are untangled -/

namespace Store

variable {store : Store}

/-- A path that names a menu names what that menu names too. -/
def PathsWhole (store : Store) : Prop :=
  ∀ id menu, store.menus.get? id = some menu → ∀ upper other,
    upper ∈ ancestorIds menu.parentPath → store.menus.get? upper = some other →
      ∀ name, other.ref.Names name → name ∈ ancestorIds menu.parentPath

theorem PathsWhole.untangled (whole : store.PathsWhole) (linked : List String) :
    store.Untangled linked := by
  intro first _ second _ _ below id menu looked _ found member name named
  obtain ⟨rounds, there⟩ := looked
  have stored : ((Ascent.start store [first]).after store rounds).Stored store := by
    cases rounds with
    | zero => exact stored_start store [first]
    | succ rounds => exact stored_next store _
  obtain ⟨row, present, rfl⟩ := stored below there
  obtain ⟨⟨key, value⟩, inside, rfl⟩ := List.mem_map.mp present
  exact whole key value ((store.menus.mem_rows key value).mp inside) id menu member found name named

theorem PathsAgree.pathsWhole (paths : store.PathsAgree) : store.PathsWhole := by
  intro id menu found upper other member met name named
  rcases paths id menu found with empty | whole
  · rw [empty] at member
    cases member
  · have below := (whole upper).mp member
    rw [whole]
    rcases named with path | ⟨rfl, parent⟩
    · rcases paths upper other met with empty | higher
      · have blank : other.ref.parentPath = "" := empty
        rw [blank] at path
        cases path
      · exact below.trans ((higher name).mp path)
    · exact below.tail ⟨other, met, rfl, parent⟩

theorem Rooted.pathsWhole (rooted : store.Rooted) : store.PathsWhole :=
  rooted.pathsAgree.pathsWhole

end Store

namespace Ascent

variable {store : Store} {linked : List String} {menuId : String}

/-- A menu that is looked at for one of the links is looked at for all of them no later, or
all that it names is known. -/
theorem looked_or_known (keyed : store.Keyed) (untangled : store.Untangled linked)
    (own : menuId ∈ linked) (rounds : Nat) :
    ∀ menu ∈ ((start store [menuId]).after store rounds).frontier,
      (∃ earlier ≤ rounds, menu ∈ ((start store linked).after store earlier).frontier) ∨
        ∀ id, menu.Names id → id ∈ ((start store linked).after store rounds).known := by
  induction rounds with
  | zero =>
      intro menu looked
      exact .inl ⟨0, Nat.le_refl 0, (start_single own).1 menu looked⟩
  | succ rounds ih =>
      intro menu looked
      obtain ⟨id, asked, row, found, rfl⟩ := mem_next_frontier.mp looked
      obtain ⟨unknown, below, member, parent, some_, unnamed⟩ := of_mem_wanted asked
      have known : id ∈ ((start store linked).after store (rounds + 1)).known := by
        have named : below.Names id := .inr ⟨parent, some_⟩
        rcases ih below member with ⟨earlier, le, there⟩ | all
        · exact known_of_le (Nat.succ_le_succ le) (mem_known_of_names there named)
        · exact known_of_le (Nat.le_succ rounds) (all id named)
      -- For all links the id is known too; what matters is whether it was asked for there or only
      -- named.
      rcases known_origin known with first | ⟨earlier, less, asked' | ⟨other, there, path⟩⟩
      · obtain ⟨menu, linkedMenu, rfl⟩ := mem_start_known.mp first
        obtain ⟨key, _, other, stored, _, rfl⟩ := mem_start_frontier.mp linkedMenu
        have same : other = row := by
          have stored' := stored
          rw [← keyed key other stored] at stored'
          exact Option.some.inj (stored'.symm.trans found)
        exact .inl ⟨0, Nat.zero_le _, same ▸ linkedMenu⟩
      · exact .inl ⟨earlier + 1, less, mem_next_frontier.mpr ⟨id, asked', row, found, rfl⟩⟩
      · obtain ⟨another, its, single, _⟩ := exists_alone there
        by_cases same : another = menuId
        · -- The way up from this link has met the path itself, in this very round at the earliest.
          subst same
          have met : id ∈ ((start store [another]).after store (earlier + 1)).known :=
            mem_known_of_names (by simp [single]) (.inl path)
          have now : earlier = rounds := by
            by_contra apart
            exact unknown (known_of_le (by omega) met)
          subst now
          rw [single, List.mem_singleton] at member
          exact absurd (member ▸ path) unnamed
        · refine .inr fun name named => known_of_le less (mem_known_of_names there (.inl ?_))
          exact untangled another its menuId own same other id row ⟨earlier, by simp [single]⟩
            ⟨rounds, asked⟩ found path name named

theorem finds_of_alone (keyed : store.Keyed) (untangled : store.Untangled linked)
    (own : menuId ∈ linked) {id : String} (finds : (start store [menuId]).Finds store id) :
    (start store linked).Finds store id := by
  obtain ⟨rounds, known⟩ := finds
  induction rounds with
  | zero => exact ⟨0, (start_single own).2 id known⟩
  | succ rounds ih =>
      rcases mem_next_known.mp known with ⟨menu, looked, named⟩ | before
      · rcases looked_or_known keyed untangled own rounds menu looked with ⟨earlier, _, there⟩ | all
        · exact ⟨earlier + 1, mem_known_of_names there named⟩
        · exact ⟨rounds, all id named⟩
      · exact ih before

end Ascent

namespace Store

def linkedOnly (store : Store) (roleId : String) (linked : List String) : Store :=
  { store with links := store.links.insert roleId linked }

def Gives (store : Store) (roleId : String) (linked : List String) (key : List String) : Prop :=
  ∃ resources,
    ({ memory := store.linkedOnly roleId linked } : StoreAccess).resourcesOf roleId =
      .ok resources ∧ key ∈ resources.map Resource.key

variable {store : Store} {roleId : String} {linked : List String} {key : List String}

theorem gives_iff : store.Gives roleId linked key ↔
    ∃ resource ∈ store.resources.values, resource.key = key ∧
      (Ascent.start store linked).Finds store resource.menuId := by
  obtain ⟨resources, answer, keys⟩ := exists_resourcesOf (store.linkedOnly roleId linked) roleId
  have begun : (store.linkedOnly roleId linked).ascent roleId = Ascent.start store linked := by
    rw [ascent, linkedOnly, Table.get?_insert, if_pos rfl]
    rfl
  have same : key ∈ resources.map Resource.key ↔ ∃ resource ∈ store.resources.values,
      resource.key = key ∧ (Ascent.start store linked).Finds store resource.menuId := by
    have climbs : ∀ rounds, (Ascent.start store linked).after (store.linkedOnly roleId linked)
        rounds = (Ascent.start store linked).after store rounds :=
      fun rounds => after_congr (by exact fun _ => rfl) rounds _
    rw [keys key, begun]
    simp only [Finds, climbs]
    rfl
  rw [← same]
  constructor
  · rintro ⟨others, given, member⟩
    rw [answer] at given
    cases given
    exact member
  · exact fun member => ⟨resources, answer, member⟩

end Store

/-- What a role is given for several links is some of what it is given for one of them, and all
of it if the links are untangled.  Then a link more takes nothing away, and the order of the
links does not matter. -/
theorem grants_of_untangled_links_add_up {store : Store} (keyed : store.Keyed) (roleId : String)
    (linked : List String) :
    (∃ resources, ({ memory := store.linkedOnly roleId linked } : StoreAccess).resourcesOf roleId =
      .ok resources) ∧
      (∀ key, store.Gives roleId linked key →
        ∃ menuId ∈ linked, store.Gives roleId [menuId] key) ∧
      (store.Untangled linked →
        (∀ key, (∃ menuId ∈ linked, store.Gives roleId [menuId] key) →
          store.Gives roleId linked key) ∧
        ∀ fewer, fewer ⊆ linked → ∀ key, store.Gives roleId fewer key →
          store.Gives roleId linked key) := by
  have apart : ∀ others key, store.Gives roleId others key →
      ∃ menuId ∈ others, store.Gives roleId [menuId] key := by
    intro others key gives
    obtain ⟨resource, present, same, finds⟩ := Store.gives_iff.mp gives
    obtain ⟨menuId, own, alone⟩ := exists_finds_alone finds
    exact ⟨menuId, own, Store.gives_iff.mpr ⟨resource, present, same, alone⟩⟩
  have together : store.Untangled linked → ∀ key,
      (∃ menuId ∈ linked, store.Gives roleId [menuId] key) → store.Gives roleId linked key := by
    rintro untangled key ⟨menuId, own, gives⟩
    obtain ⟨resource, present, same, finds⟩ := Store.gives_iff.mp gives
    exact Store.gives_iff.mpr ⟨resource, present, same, finds_of_alone keyed untangled own finds⟩
  obtain ⟨resources, answer, _⟩ := exists_resourcesOf (store.linkedOnly roleId linked) roleId
  refine ⟨⟨resources, answer⟩, apart linked, ?_⟩
  intro untangled
  refine ⟨together untangled, ?_⟩
  intro fewer within key gives
  obtain ⟨menuId, own, alone⟩ := apart fewer key gives
  exact together untangled key ⟨menuId, within own, alone⟩

def threeLevels : Store :=
  (((Store.empty.upsertMenu { id := "m1" }).upsertMenu { id := "m2", parentId := "m1" }).upsertMenu
    { id := "m3", parentId := "m2", parentPath := "m1.m2." }).putResource
      { id := "1", menuId := "m1", method := "GET", path := "/a" }

theorem rooted_threeLevels : threeLevels.Keyed ∧ threeLevels.Rooted := by
  have only : ∀ id menu, threeLevels.menus.get? id = some menu →
      id = "m3" ∧ menu = { id := "m3", parentId := "m2", parentPath := "m1.m2." } ∨
      id = "m2" ∧ menu = { id := "m2", parentId := "m1" } ∨ id = "m1" ∧ menu = { id := "m1" } := by
    intro id menu found
    have rows : threeLevels.menus.rows =
        [("m3", { id := "m3", parentId := "m2", parentPath := "m1.m2." }),
          ("m2", { id := "m2", parentId := "m1" }), ("m1", { id := "m1" })] := by decide
    have row := (threeLevels.menus.mem_rows id menu).mpr found
    rw [rows] at row
    simpa using row
  have first : threeLevels.Above { id := "m1" } [] := .root rfl
  have second : threeLevels.Above { id := "m2", parentId := "m1" } ["m1"] :=
    .child (by decide) (by decide) first
  have third : threeLevels.Above { id := "m3", parentId := "m2", parentPath := "m1.m2." }
      ["m1", "m2"] := .child (by decide) (by decide) second
  refine ⟨?_, ?_⟩
  · intro id menu found
    rcases only id menu found with ⟨rfl, rfl⟩ | ⟨rfl, rfl⟩ | ⟨rfl, rfl⟩ <;> rfl
  · intro id menu found
    rcases only id menu found with ⟨_, rfl⟩ | ⟨_, rfl⟩ | ⟨_, rfl⟩
    · exact ⟨_, third, .inr (by decide)⟩
    · exact ⟨_, second, .inl rfl⟩
    · exact ⟨_, first, .inl rfl⟩

/-- The lost path is made up for, alone and beside the button. -/
theorem lost_path_adds_up_beside_a_whole_one :
    threeLevels.Keyed ∧ threeLevels.Untangled ["m2", "m3"] ∧
      threeLevels.Gives "r" ["m2"] ["GET", "/a"] ∧
      threeLevels.Gives "r" ["m2", "m3"] ["GET", "/a"] := by
  obtain ⟨keyed, rooted⟩ := rooted_threeLevels
  have untangled := rooted.pathsWhole.untangled ["m2", "m3"]
  obtain ⟨_, _, more⟩ := grants_of_untangled_links_add_up keyed "r" ["m2", "m3"]
  have alone : threeLevels.Gives "r" ["m2"] ["GET", "/a"] :=
    Store.gives_iff.mpr ⟨_, List.mem_cons_self, rfl, 1, by decide⟩
  exact ⟨keyed, untangled, alone, (more untangled).1 _ ⟨"m2", by simp, alone⟩⟩

/-- A page whose path has lost its beginning, beside one whose path is lost altogether. -/
def tangledLevels : Store :=
  ((((Store.empty.upsertMenu { id := "q" }).upsertMenu { id := "p", parentId := "q" }).upsertMenu
    { id := "a1", parentPath := "p." }).upsertMenu { id := "a2", parentId := "p" }).putResource
      { id := "1", menuId := "q", method := "GET", path := "/a" }

theorem shortened_path_takes_a_resource_away :
    ¬ ∀ key, tangledLevels.Gives "r" ["a1", "a2"] key ↔
      ∃ menuId ∈ ["a1", "a2"], tangledLevels.Gives "r" [menuId] key := by
  intro additive
  have alone : tangledLevels.Gives "r" ["a2"] ["GET", "/a"] :=
    Store.gives_iff.mpr ⟨_, List.mem_cons_self, rfl, 2, by decide⟩
  have both := (additive ["GET", "/a"]).mpr ⟨"a2", by simp, alone⟩
  obtain ⟨resource, present, _, finds⟩ := Store.gives_iff.mp both
  have unasked : (Ascent.start tangledLevels ["a1", "a2"]).wanted = [] := by decide
  obtain rfl : resource = { id := "1", menuId := "q", method := "GET", path := "/a" } :=
    List.mem_singleton.mp present
  exact absurd ((finds_iff_of_wanted_nil _ 0 unasked).mp finds) (by decide)

end RoleGrants
