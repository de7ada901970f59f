import RoleGrants.Proofs.Policy.Ascent
import RoleGrants.Proofs.Pool.Schedules
import RoleGrants.Proofs.Store.Unordered

/-! # One row for each key

The rows of a role's menus come in the order of their ids, are sorted by their keys, and of
each run with one key the first is kept.  The sort is stable, so that row is the one with the
least id (`least_of_mem_distinct`): what a role is given is known by its menus and the rows of
the store alone, in whatever order the tables hold them.  A line is made of a role and a key,
so a policy has the same lines from the rows that are kept as from all of them
(`lines_eq_of_same_keys`). -/

set_option autoImplicit false

namespace RoleGrants

namespace Gather

variable {rows : List Resource}

theorem pairwise_distinct (rows : List Resource) :
    (distinct rows).Pairwise fun first second => first.key < second.key :=
  pairwise_dropRepeats Resource.key rule_strictOrder
    (pairwise_sortBy rule_strictOrder Resource.key rows)

theorem find?_of_mem_distinct {kept : Resource} (member : kept ∈ distinct rows) :
    rows.find? (fun row => row.key = kept.key) = some kept := by
  have found := find?_of_mem_dropRepeats Resource.key rule_strictOrder
    (pairwise_sortBy rule_strictOrder Resource.key rows) member
  rwa [← List.head?_filter, filter_sortBy rule_strictOrder, List.head?_filter] at found

theorem least_of_mem_distinct (ascends : rows.Pairwise fun first second => first.id < second.id)
    {kept row : Resource} (member : kept ∈ distinct rows) (present : row ∈ rows)
    (same : row.key = kept.key) : row = kept ∨ kept.id < row.id :=
  eq_or_of_find? ascends (find?_of_mem_distinct member) present (decide_eq_true same)

/-! ## The menus that rows are asked for -/

/-- The ids whose rows are asked for at last; none where no enabled menu is linked. -/
def Collects (store : Store) (roleId : String) (known : List String) : Prop :=
  if store.roleMenus roleId = [] then known = []
  else Leads (Queries.ofStore store) roleId .linked (.collect known)

theorem eq_of_leads_done {queries : Queries} {roleId : String}
    {answer : Except StoreError (List Resource)} {later : Gather}
    (leads : Leads queries roleId (.done answer) later) : later = .done answer := by
  induction leads with
  | refl => rfl
  | tail _ step ih => rw [step, ih, advance]

theorem Collects.unique {store : Store} {roleId : String} {known others : List String}
    (collects : Collects store roleId known) (again : Collects store roleId others) :
    others = known := by
  unfold Collects at collects again
  split at collects
  next unlinked =>
    rw [if_pos unlinked] at again
    rw [again, collects]
  next linked =>
    rw [if_neg linked] at again
    have stays : ∀ {first second : List String},
        Leads (Queries.ofStore store) roleId (.collect first) (.collect second) →
          second = first := by
      intro first second leads
      rcases leads.cases_head with same | ⟨next, rfl, rest⟩
      · cases same
        rfl
      · cases eq_of_leads_done rest
    have functional : Relator.RightUnique fun before after : Gather =>
        after = before.advance (Queries.ofStore store) roleId := by
      rintro before first second rfl rfl
      rfl
    rcases Relation.ReflTransGen.total_of_right_unique functional collects again with on | back
    · exact stays on
    · exact (stays back).symm

end Gather

open Gather

theorem exists_collects (store : Store) (roleId : String) :
    ∃ known, Collects store roleId known ∧
      ({ memory := store } : StoreAccess).resourcesOf roleId =
        .ok (distinct (store.menuResources known)) := by
  unfold Collects
  by_cases unlinked : store.roleMenus roleId = []
  · have asked : (Queries.ofStore store).roleMenus roleId = .ok [] := congrArg Except.ok unlinked
    have begun : ({ memory := store } : StoreAccess).resourcesOf roleId =
        run (Queries.ofStore store) roleId (store.menus.size + 3)
          (Gather.linked.advance (Queries.ofStore store) roleId) := rfl
    have nothing : distinct (store.menuResources []) = [] := by
      simp [distinct, Store.menuResources, sortBy, dropRepeats]
    refine ⟨[], by rw [if_pos unlinked], ?_⟩
    rw [begun, advance, asked, nothing]
    exact run_done _ roleId _ _
  · rcases resourcesOf_cases store roleId with ⟨none_, _⟩ | ⟨known, _, leads, answer⟩
    · exact absurd none_ unlinked
    · exact ⟨known, by rwa [if_neg unlinked], answer⟩

/-! ## Lines of the rows that are kept -/

/-- Beside whatever else is compiled, only the keys of a role's rows count. -/
theorem lines_eq_of_same_keys {roleId : String} {resources rows : List Resource}
    (same : ∀ key, key ∈ resources.map Resource.key ↔ key ∈ rows.map Resource.key)
    (before after : List Holding) {kept all : Compiled}
    (left : IsPolicyOf (before ++ ⟨roleId, resources⟩ :: after) kept)
    (right : IsPolicyOf (before ++ ⟨roleId, rows⟩ :: after) all) : kept.lines = all.lines := by
  refine left.lines_eq right ?_
  intro line
  simp only [List.mem_append, List.mem_cons, or_and_right, exists_or, exists_eq_left,
    Holding.mem_lines_iff, same]

open Store

/-- What a role is given, on every store that calls have made, one after another or side by
side: rows in strictly ascending order of their keys; a key exactly if some row of a menu that
is collected has it; and for each key the row with the least id among these.  It does not
depend on the order of the tables.  A policy has the same lines from these rows as from all
rows of the menus in any arrangement, whatever is compiled with them, however large the pools
are and whichever way they are scheduled. -/
theorem resources_are_the_least_rows_of_their_keys {store : Store}
    (reached : Relation.ReflTransGen Change Store.empty store) (roleId : String) :
    ∃ resources known,
      ({ memory := store } : StoreAccess).resourcesOf roleId = .ok resources ∧
      Collects store roleId known ∧
      (resources.Pairwise fun first second => first.key < second.key) ∧
      (∀ key, (∃ kept ∈ resources, kept.key = key) ↔
        ∃ row ∈ store.resources.values, row.menuId ∈ known ∧ row.key = key) ∧
      (∀ kept ∈ resources, kept ∈ store.resources.values ∧ kept.menuId ∈ known ∧
        ∀ row ∈ store.resources.values, row.menuId ∈ known → row.key = kept.key →
          row = kept ∨ kept.id < row.id) ∧
      (∀ other, store.SameRows other →
        ({ memory := other } : StoreAccess).resourcesOf roleId = .ok resources) ∧
      ∀ (rows : List Resource) (before after : List Holding) (size wide : PoolSize),
        rows.Perm (store.resources.values.filter fun row => known.contains row.menuId) →
        let single := before ++ ⟨roleId, resources⟩ :: after
        let whole := before ++ ⟨roleId, rows⟩ :: after
        (size.isTooDeep = false → wide.isTooDeep = false → ∃ kept all,
          compile size single = .made kept ∧ compile wide whole = .made all ∧
            kept.lines = all.lines) ∧
        ∀ kept all, Pool.Yields size single kept → Pool.Yields wide whole all →
          kept.lines = all.lines := by
  have identified := Identified.of_changes reached
  obtain ⟨known, collects, answer⟩ := exists_collects store roleId
  have asked : ∀ row, row ∈ store.menuResources known ↔
      row ∈ store.resources.values ∧ row.menuId ∈ known := by
    intro row
    simp [menuResources]
  -- The rows come by ascending ids, which is what the stable sort keeps within each key.
  have ascends : (store.menuResources known).Pairwise fun first second => first.id < second.id :=
    pairwise_lt_sortBy text_strictOrder Resource.id (identified.resources.nodup_filter _)
  have keys : ∀ key, key ∈ (distinct (store.menuResources known)).map Resource.key ↔
      ∃ row ∈ store.resources.values, row.menuId ∈ known ∧ row.key = key := by
    intro key
    rw [mem_keys_distinct, List.mem_map]
    simp only [asked, and_assoc]
  obtain ⟨sound, -⟩ := dropRepeats_sortBy_keeps Resource.key (store.menuResources known)
  refine ⟨distinct (store.menuResources known), known, answer, collects,
    pairwise_distinct _, ?_, ?_, ?_, ?_⟩
  · intro key
    rw [← keys, List.mem_map]
  · intro kept member
    obtain ⟨stored, own⟩ := (asked kept).mp (sound kept member)
    refine ⟨stored, own, ?_⟩
    intro row present inside same
    exact least_of_mem_distinct ascends member ((asked row).mpr ⟨present, inside⟩) same
  · intro other same
    rw [same.resourcesOf_eq identified, answer]
  · intro rows before after size wide arranged single whole
    have alike : ∀ key, key ∈ (distinct (store.menuResources known)).map Resource.key ↔
        key ∈ rows.map Resource.key := by
      intro key
      rw [keys, List.mem_map]
      simp only [arranged.mem_iff, List.mem_filter, List.contains_iff_mem, and_assoc]
    refine ⟨?_, ?_⟩
    · intro room roomy
      exact ⟨_, _, compile_eq_made room single, compile_eq_made roomy whole,
        lines_eq_of_same_keys alike before after (isPolicyOf_policyOf _) (isPolicyOf_policyOf _)⟩
    · intro kept all first second
      exact lines_eq_of_same_keys alike before after first.isPolicyOf second.isPolicyOf

def doubledRow : Store :=
  (((((Store.empty.upsertMenu { id := "m" }).upsertMenu { id := "n", parentId := "m" }).putLink
    "r" "n").putResource ⟨"2", "n", "GET", "/a"⟩).putResource ⟨"3", "n", "PUT", "/a"⟩).putResource
      ⟨"1", "m", "GET", "/a"⟩

theorem reached_doubledRow : Relation.ReflTransGen Change Store.empty doubledRow :=
  .tail (.tail (.tail (.tail (.tail (.single (.upsertMenu _)) (.upsertMenu _)) (.putLink _ _))
    (.putResource _)) (.putResource _)) (.putResource _)

theorem collects_doubledRow : Collects doubledRow "r" ["m", "n"] := by
  rw [Collects, if_neg (by decide)]
  exact .tail (.single rfl) rfl

/-- Two rows have the key of `GET /a`: the one with the lesser id is kept, though it is of the
upper page and was put last, and the lines are those of all three rows. -/
theorem row_with_the_least_id_stands_for_its_key :
    ∃ resources, ({ memory := doubledRow } : StoreAccess).resourcesOf "r" = .ok resources ∧
      ⟨"1", "m", "GET", "/a"⟩ ∈ resources ∧ ⟨"2", "n", "GET", "/a"⟩ ∉ resources ∧
      ∃ kept all, compile (PoolSize.raised 1 1) [⟨"r", resources⟩] = .made kept ∧
        compile (PoolSize.raised 2 1) [⟨"r", doubledRow.resources.values⟩] = .made all ∧
          kept.lines = all.lines := by
  obtain ⟨resources, known, answer, collects, _, keys, least, _, compiled⟩ :=
    resources_are_the_least_rows_of_their_keys reached_doubledRow "r"
  obtain rfl := collects_doubledRow.unique collects
  have stored : doubledRow.resources.values =
      [⟨"1", "m", "GET", "/a"⟩, ⟨"3", "n", "PUT", "/a"⟩, ⟨"2", "n", "GET", "/a"⟩] := rfl
  have upper : ∀ kept ∈ resources, kept.key = ["GET", "/a"] →
      ⟨"1", "m", "GET", "/a"⟩ = kept ∨ kept.id < "1" := fun kept member same =>
    (least kept member).2.2 ⟨"1", "m", "GET", "/a"⟩ (by simp [stored]) (by decide) same.symm
  refine ⟨resources, answer, ?_, ?_, ?_⟩
  · obtain ⟨kept, member, same⟩ := (keys ["GET", "/a"]).mpr
      ⟨⟨"1", "m", "GET", "/a"⟩, by simp [stored], by decide, rfl⟩
    rcases upper kept member same with rfl | less
    · exact member
    · have present := (least kept member).1
      rw [stored] at present
      simp only [List.mem_cons, List.not_mem_nil, or_false] at present
      rcases present with rfl | rfl | rfl
      · exact member
      · exact absurd less (by decide)
      · exact absurd less (by decide)
  · intro member
    exact absurd (upper _ member rfl) (by decide)
  · exact (compiled doubledRow.resources.values [] [] (PoolSize.raised 1 1) (PoolSize.raised 2 1)
      (by rw [stored]; exact List.Perm.refl _)).1 rfl rfl

end RoleGrants
