import RoleGrants.Proofs.Policy.Additive
import RoleGrants.Proofs.Sync.Progress

/-! # Roles that cannot be gathered

A role fails when one of the queries that are made for it is refused.  What a store and
its failing roles are to come to is said line by line (`Situation.Offers`): a line is a matter
of its own role, of the menus and of the resources (`Situation.AgreeBut.offers_iff`).

While jobs are gathered in any order, and any of their queries may be refused, each is on
its way to the holding of its role or has failed (`Job.Settles`), and none of the roles
that do not fail is lost (`Sifted`). -/

set_option autoImplicit false

namespace RoleGrants

/-! ## What a store comes to -/

structure Situation where
  store : Store
  fails : String → Prop

namespace Situation

/-- A line that can be stored, of a role that is enabled and does not fail. -/
structure Offers (situation : Situation) (line : Line) : Prop where
  enabled : situation.store.HasRole line.subject
  gathered : ¬ situation.fails line.subject
  storable : line.isStorable = true
  granted : ∃ resource ∈ situation.store.resources.values,
    Line.ofResource line.subject resource = line ∧
      (situation.store.ascent line.subject).Finds situation.store resource.menuId

structure AgreeBut (roleId : String) (situation other : Situation) : Prop where
  menus : ∀ id, situation.store.menus.get? id = other.store.menus.get? id
  resources : ∀ resource,
    resource ∈ situation.store.resources.values ↔ resource ∈ other.store.resources.values
  roles : ∀ role : Role, role.id ≠ roleId →
    (role ∈ situation.store.roles.values ↔ role ∈ other.store.roles.values)
  links : ∀ id, id ≠ roleId → situation.store.links.get? id = other.store.links.get? id
  fails : ∀ id, id ≠ roleId → (situation.fails id ↔ other.fails id)

namespace AgreeBut

variable {roleId id : String} {situation other : Situation}

theorem symm (agree : AgreeBut roleId situation other) : AgreeBut roleId other situation where
  menus id := (agree.menus id).symm
  resources resource := (agree.resources resource).symm
  roles role apart := (agree.roles role apart).symm
  links id apart := (agree.links id apart).symm
  fails id apart := (agree.fails id apart).symm

theorem hasRole (agree : AgreeBut roleId situation other) (apart : id ≠ roleId)
    (has : situation.store.HasRole id) : other.store.HasRole id := by
  obtain ⟨role, present, rfl, enabled⟩ := has
  exact ⟨role, (agree.roles role apart).mp present, rfl, enabled⟩

/-- The ways up of the other roles are the same. -/
theorem finds (agree : AgreeBut roleId situation other) (apart : id ≠ roleId) {menuId : String}
    (found : (situation.store.ascent id).Finds situation.store menuId) :
    (other.store.ascent id).Finds other.store menuId := by
  have shown : situation.store.menus.get? = other.store.menus.get? := funext agree.menus
  have begun : situation.store.ascent id = other.store.ascent id := by
    rw [Store.ascent, Store.ascent, agree.links id apart, Ascent.start, Ascent.start, shown]
  obtain ⟨rounds, known⟩ := found
  rw [begun, Ascent.after_congr agree.menus rounds] at known
  exact ⟨rounds, known⟩

theorem offers (agree : AgreeBut roleId situation other) {line : Line}
    (apart : line.subject ≠ roleId) (offered : situation.Offers line) : other.Offers line := by
  obtain ⟨enabled, gathered, storable, resource, present, same, found⟩ := offered
  exact ⟨agree.hasRole apart enabled, mt (agree.fails _ apart).mpr gathered, storable,
    resource, (agree.resources resource).mp present, same, agree.finds apart found⟩

theorem offers_iff (agree : AgreeBut roleId situation other) {line : Line}
    (apart : line.subject ≠ roleId) : situation.Offers line ↔ other.Offers line :=
  ⟨agree.offers apart, agree.symm.offers apart⟩

end AgreeBut
end Situation

theorem Store.mem_lines_holdingOf (store : Store) (roleId : String) (line : Line) :
    line ∈ (store.holdingOf roleId).lines ↔
      ∃ resource ∈ store.resources.values, Line.ofResource roleId resource = line ∧
        (store.ascent roleId).Finds store resource.menuId := by
  obtain ⟨rows, answer, keys⟩ := exists_resourcesOf store roleId
  have own : store.holdingOf roleId = ⟨roleId, rows⟩ := by
    rw [holdingOf, answer]
    rfl
  rw [own, Holding.mem_lines_iff, keys]
  simp only [Line.ofResource_eq_iff]
  constructor
  · rintro ⟨subject, resource, stored, same, finds⟩
    exact ⟨resource, stored, ⟨subject, same⟩, finds⟩
  · rintro ⟨resource, stored, ⟨subject, same⟩, finds⟩
    exact ⟨subject, resource, stored, same, finds⟩

/-! ## Queries that are refused -/

namespace Queries

theorem orRefuse_cases {α : Type} (refusal : Option StoreError) (answer : Except StoreError α) :
    orRefuse refusal answer = answer ∨ ∃ error, orRefuse refusal answer = .error error := by
  cases refusal with
  | none => exact .inl rfl
  | some error => exact .inr ⟨error, rfl⟩

theorem orRefuse_orRefuse {α : Type} (first second : Option StoreError)
    (answer : Except StoreError α) :
    orRefuse first (orRefuse second answer) = orRefuse (first.or second) answer := by
  cases first <;> rfl

/-- What a database that cannot be reached refuses. -/
def unserved : Query → Option StoreError
  | .menus ids => if ids.isEmpty then none else some serverless
  | .menuResources ids => if ids.isEmpty then none else some serverless
  | _ => some serverless

/-- Without its server a database answers as any store that refuses what needs the server. -/
theorem ofDatabase_eq (store : Store) : ofDatabase = (ofStore store).refusing unserved := by
  have menus : ∀ ids, ofDatabase.menus ids = ((ofStore store).refusing unserved).menus ids := by
    intro ids
    cases ids <;> rfl
  have resources : ∀ ids,
      ofDatabase.menuResources ids = ((ofStore store).refusing unserved).menuResources ids := by
    intro ids
    cases ids with
    | nil => simp [ofDatabase, refusing, unserved, orRefuse, ofStore, Store.menuResources, sortBy]
    | cons id rest => rfl
  rw [ofDatabase, refusing]
  congr 1
  · exact funext menus
  · exact funext resources

end Queries

theorem StoreAccess.exists_refusal (access : StoreAccess) :
    ∃ refusal, access.queries = (Queries.ofStore access.memory).refusing refusal := by
  rw [queries]
  cases access.backend with
  | memory => exact ⟨access.refusal, rfl⟩
  | postgres =>
      refine ⟨fun query => (access.refusal query).or (Queries.unserved query), ?_⟩
      simp only [Queries.ofDatabase_eq access.memory, Queries.refusing, Queries.orRefuse_orRefuse]

/-! ## Jobs that may fail -/

theorem Gather.advance_refusing (refusal : Query → Option StoreError) (queries : Queries)
    (roleId : String) (gather : Gather) :
    gather.advance (queries.refusing refusal) roleId = gather.advance queries roleId ∨
      ∃ error, gather.advance (queries.refusing refusal) roleId = .done (.error error) := by
  cases gather with
  | linked =>
      rcases Queries.orRefuse_cases (refusal (.roleMenus roleId)) (queries.roleMenus roleId)
        with same | ⟨error, refused⟩
      · left
        simp only [advance, Queries.refusing, same]
      · exact .inr ⟨error, by simp only [advance, Queries.refusing, refused]⟩
  | parents known wanted =>
      rcases Queries.orRefuse_cases (refusal (.menus wanted)) (queries.menus wanted)
        with same | ⟨error, refused⟩
      · left
        simp only [advance, Queries.refusing, same]
      · exact .inr ⟨error, by simp only [advance, Queries.refusing, refused]⟩
  | collect known =>
      rcases Queries.orRefuse_cases (refusal (.menuResources known)) (queries.menuResources known)
        with same | ⟨error, refused⟩
      · left
        simp only [advance, Queries.refusing, same]
      · exact .inr ⟨error, by simp only [advance, Queries.refusing, refused]⟩
  | done answer => exact .inl rfl

namespace Job

variable {store : Store} {job : Job}

def Settles (store : Store) (job : Job) : Prop :=
  job.Comes store ∨ ∃ error, job.gather = .done (.error error)

theorem settles_advance (settles : job.Settles store) (undone : job.gather.isDone = false)
    (refusal : Query → Option StoreError) :
    let next : Job := { job with
      gather := job.gather.advance ((Queries.ofStore store).refusing refusal) job.roleId }
    next.Settles store ∧ next.rest store < job.rest store := by
  intro next
  have comes : job.Comes store := by
    refine settles.resolve_right ?_
    rintro ⟨error, failed⟩
    rw [failed] at undone
    cases undone
  obtain ⟨later, fewer⟩ := Gather.advance_of_ok undone comes
  rcases Gather.advance_refusing refusal (Queries.ofStore store) job.roleId job.gather
    with same | ⟨error, failed⟩
  · have own : next = { job with
        gather := job.gather.advance (Queries.ofStore store) job.roleId } := by rw [← same]
    rw [own]
    exact ⟨.inl later, Nat.succ_lt_succ fewer⟩
  · have own : next = ⟨job.roleId, .done (.error error)⟩ := by rw [← failed]
    rw [own]
    refine ⟨.inr ⟨error, rfl⟩, Nat.succ_lt_succ ?_⟩
    have none_ : Gather.rounds (Queries.ofStore store) job.roleId (fuel store)
        (.done (.error error)) = 0 := by cases fuel store <;> rfl
    rw [none_]
    exact Nat.zero_lt_of_lt fewer

end Job

/-- Each job settles, and of the roles that do not fail each is still being gathered or has handed
its holding over. -/
structure Sifted (situation : Situation) (jobs : List Job) (holdings : List Holding) : Prop where
  going : ∀ job ∈ jobs, situation.store.HasRole job.roleId ∧ job.Settles situation.store
  given : ∀ holding ∈ holdings, ∃ roleId, situation.store.HasRole roleId ∧
    ¬ situation.fails roleId ∧ holding = situation.store.holdingOf roleId
  whole : ∀ roleId, situation.store.HasRole roleId → ¬ situation.fails roleId →
    (∃ job ∈ jobs, job.roleId = roleId) ∨ situation.store.holdingOf roleId ∈ holdings

namespace Sifted

variable {situation : Situation} {jobs : List Job} {holdings : List Holding} {index : Nat}

theorem start (situation : Situation) :
    Sifted situation (situation.store.enabledRoles.map fun role => ⟨role.id, .linked⟩) [] := by
  refine ⟨?_, fun holding member => absurd member List.not_mem_nil, ?_⟩
  · intro job member
    obtain ⟨role, present, rfl⟩ := List.mem_map.mp member
    exact ⟨(situation.store.hasRole_iff role.id).mpr ⟨role, present, rfl⟩,
      .inl (Job.comes_linked situation.store role.id)⟩
  · intro roleId enabled _
    obtain ⟨role, present, same⟩ := (situation.store.hasRole_iff roleId).mp enabled
    exact .inl ⟨_, List.mem_map_of_mem present, same⟩

theorem asked (sifted : Sifted situation jobs holdings) {job : Job}
    (found : jobs[index]? = some job) (undone : job.gather.isDone = false)
    (refusal : Query → Option StoreError) :
    let next : Job := { job with
      gather := job.gather.advance ((Queries.ofStore situation.store).refusing refusal) job.roleId }
    Sifted situation (jobs.set index next) holdings ∧
      Pool.total (Job.rest situation.store) (jobs.set index next) <
        Pool.total (Job.rest situation.store) jobs := by
  intro next
  obtain ⟨enabled, settles⟩ := sifted.going job (List.mem_of_getElem? found)
  obtain ⟨later, fewer⟩ := job.settles_advance settles undone refusal
  have counted := Pool.total_set (Job.rest situation.store) found next
  refine ⟨⟨?_, sifted.given, ?_⟩, ?_⟩
  · intro other member
    rcases List.mem_or_eq_of_mem_set member with old | rfl
    · exact sifted.going other old
    · exact ⟨enabled, later⟩
  · intro roleId role gathered
    rcases sifted.whole roleId role gathered with going | holding
    · exact .inl (Job.exists_of_set found rfl going)
    · exact .inr holding
  · have shrinks : next.rest situation.store < job.rest situation.store := fewer
    omega

theorem held (sifted : Sifted situation jobs holdings) {roleId : String} {rows : List Resource}
    (found : jobs[index]? = some ⟨roleId, .done (.ok rows)⟩) (gathered : ¬ situation.fails roleId) :
    Sifted situation (jobs.eraseIdx index) (holdings ++ [⟨roleId, rows⟩]) := by
  obtain ⟨enabled, settles⟩ := sifted.going _ (List.mem_of_getElem? found)
  have own : situation.store.holdingOf roleId = ⟨roleId, rows⟩ := by
    rcases settles with comes | ⟨error, failed⟩
    · exact Job.holdingOf_eq comes
    · cases failed
  refine ⟨?_, ?_, ?_⟩
  · intro job member
    exact sifted.going job (List.mem_of_mem_eraseIdx member)
  · intro holding member
    rcases List.mem_append.mp member with old | new
    · exact sifted.given holding old
    · rw [List.mem_singleton] at new
      exact ⟨roleId, enabled, gathered, new.trans own.symm⟩
  · intro other role unfailing
    rcases sifted.whole other role unfailing with going | there
    · rcases Job.exists_of_eraseIdx found going with same | stays
      · right
        rw [← own, ← same]
        exact List.mem_append_right _ (List.mem_singleton_self _)
      · exact .inl stays
    · exact .inr (List.mem_append_left _ there)

theorem lost (sifted : Sifted situation jobs holdings) {roleId : String} {error : StoreError}
    (found : jobs[index]? = some ⟨roleId, .done (.error error)⟩) (failed : situation.fails roleId) :
    Sifted situation (jobs.eraseIdx index) holdings := by
  refine ⟨?_, sifted.given, ?_⟩
  · intro job member
    exact sifted.going job (List.mem_of_mem_eraseIdx member)
  · intro other role unfailing
    rcases sifted.whole other role unfailing with going | there
    · rcases Job.exists_of_eraseIdx found going with same | stays
      · rw [← same] at unfailing
        exact absurd failed unfailing
      · exact .inl stays
    · exact .inr there

theorem mem_lines (sifted : Sifted situation [] holdings) {compiled : Compiled}
    (policy : IsPolicyOf holdings compiled) (line : Line) :
    line ∈ compiled.lines ↔ situation.Offers line := by
  rw [policy.mem_lines]
  constructor
  · rintro ⟨storable, holding, member, own⟩
    obtain ⟨roleId, enabled, gathered, rfl⟩ := sifted.given holding member
    obtain ⟨resource, present, same, finds⟩ :=
      (situation.store.mem_lines_holdingOf roleId line).mp own
    obtain ⟨rfl, _⟩ := Line.ofResource_eq_iff.mp same
    exact ⟨enabled, gathered, storable, resource, present, same, finds⟩
  · rintro ⟨enabled, gathered, storable, granted⟩
    have own := (situation.store.mem_lines_holdingOf line.subject line).mpr granted
    rcases sifted.whole line.subject enabled gathered with ⟨job, member, _⟩ | there
    · cases member
    · exact ⟨storable, _, there, own⟩

end Sifted

end RoleGrants
