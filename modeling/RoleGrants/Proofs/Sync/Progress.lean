import Mathlib.Data.Prod.Lex
import RoleGrants.Proofs.Policy.Ascent
import RoleGrants.Proofs.Policy.Publishing
import RoleGrants.Proofs.Pool.Schedules
import RoleGrants.Proofs.Sync.Building

/-! # Passes come to their end

A service is in order when its store answers, one of its rows makes a line that can be
stored, and that policy can be published and an engine be built of it.  Every pass of
such a service swaps, in whatever order its roles are gathered and its pool works, as
long as nothing happens beside it (`arrives_of_inOrder`), and so does a call at one go
(`call_of_inOrder`).  `Promising` is what carries a pass from stage to stage, and with
each move it is `Nearer` to its end. -/

set_option autoImplicit false

namespace RoleGrants

/-! ## Roles on their way to their holdings -/

namespace Gather

variable {queries : Queries} {roleId : String} {fuel : Nat} {gather : Gather}
  {rows : List Resource}

def rounds (queries : Queries) (roleId : String) : Nat → Gather → Nat
  | _, .done _ => 0
  | 0, _ => 0
  | fuel + 1, gather => rounds queries roleId fuel (gather.advance queries roleId) + 1

theorem run_succ (queries : Queries) (roleId : String) (undone : gather.isDone = false)
    (fuel : Nat) :
    run queries roleId (fuel + 1) gather = run queries roleId fuel (gather.advance queries roleId) ∧
      rounds queries roleId (fuel + 1) gather =
        rounds queries roleId fuel (gather.advance queries roleId) + 1 := by
  cases gather with
  | done answer => cases undone
  | _ => exact ⟨rfl, rfl⟩

theorem rounds_le (queries : Queries) (roleId : String) (fuel : Nat) (gather : Gather) :
    rounds queries roleId fuel gather ≤ fuel := by
  induction fuel generalizing gather with
  | zero => cases gather <;> exact Nat.le_refl 0
  | succ fuel ih =>
      cases gather with
      | done answer => exact Nat.zero_le _
      | _ => exact Nat.succ_le_succ (ih _)

theorem run_succ_of_ok (answer : run queries roleId fuel gather = .ok rows) :
    run queries roleId (fuel + 1) gather = .ok rows ∧
      rounds queries roleId (fuel + 1) gather = rounds queries roleId fuel gather := by
  induction fuel generalizing gather with
  | zero =>
      cases gather with
      | done given => exact ⟨answer, rfl⟩
      | _ => cases answer
  | succ fuel ih =>
      cases undone : gather.isDone with
      | true =>
          cases gather with
          | done given => exact ⟨answer, rfl⟩
          | _ => cases undone
      | false =>
          obtain ⟨same, counted⟩ := run_succ queries roleId undone fuel
          obtain ⟨more, countedMore⟩ := run_succ queries roleId undone (fuel + 1)
          obtain ⟨later, rest⟩ := ih (same ▸ answer)
          exact ⟨more.trans later, by rw [countedMore, counted, rest]⟩

theorem advance_of_ok (undone : gather.isDone = false)
    (answer : run queries roleId fuel gather = .ok rows) :
    run queries roleId fuel (gather.advance queries roleId) = .ok rows ∧
      rounds queries roleId fuel (gather.advance queries roleId) <
        rounds queries roleId fuel gather := by
  cases fuel with
  | zero =>
      cases gather with
      | done given => cases undone
      | _ => cases answer
  | succ fuel =>
      obtain ⟨same, counted⟩ := run_succ queries roleId undone fuel
      obtain ⟨later, rest⟩ := run_succ_of_ok (same ▸ answer)
      exact ⟨later, by rw [counted, rest]; exact Nat.lt_succ_self _⟩

end Gather

/-- What gathering for a role comes to. -/
def Store.holdingOf (store : Store) (roleId : String) : Holding :=
  ⟨roleId, (({ memory := store } : StoreAccess).resourcesOf roleId).toOption.getD []⟩

def Store.holdings (store : Store) : List Holding :=
  store.enabledRoles.map fun role => store.holdingOf role.id

namespace Job

def fuel (store : Store) : Nat :=
  ({ memory := store } : StoreAccess).gatherFuel

def Comes (store : Store) (job : Job) : Prop :=
  Gather.run (Queries.ofStore store) job.roleId (fuel store) job.gather =
    .ok (store.holdingOf job.roleId).resources

/-- The moves that a job takes, the one that hands its rows over among them. -/
def rest (store : Store) (job : Job) : Nat :=
  Gather.rounds (Queries.ofStore store) job.roleId (fuel store) job.gather + 1

theorem total_rest_eraseIdx (store : Store) {jobs : List Job} {index : Nat} {job : Job}
    (found : jobs[index]? = some job) :
    Pool.total (Job.rest store) (jobs.eraseIdx index) < Pool.total (Job.rest store) jobs := by
  obtain ⟨inRange, here⟩ := List.getElem?_eq_some_iff.mp found
  have counted :=
    Pool.total_perm (Job.rest store) (List.getElem_cons_eraseIdx_perm inRange)
  simp only [Pool.total, here, Job.rest] at counted ⊢
  omega

theorem holdingOf_eq {store : Store} {roleId : String} {rows : List Resource}
    (comes : Comes store ⟨roleId, .done (.ok rows)⟩) :
    store.holdingOf roleId = ⟨roleId, rows⟩ := by
  rw [Comes, Gather.run_done] at comes
  rw [Except.ok.inj comes]
  rfl

theorem comes_linked (store : Store) (roleId : String) : Comes store ⟨roleId, .linked⟩ := by
  obtain ⟨resources, answer, _⟩ := exists_resourcesOf store roleId
  rw [Comes, Store.holdingOf, answer]
  exact answer

end Job

structure Collecting (store : Store) (jobs : List Job) (holdings : List Holding) : Prop where
  comes : ∀ job ∈ jobs, job.Comes store
  whole : (holdings ++ jobs.map fun job => store.holdingOf job.roleId).Perm store.holdings

namespace Collecting

variable {store : Store} {jobs : List Job} {holdings : List Holding} {index : Nat}

theorem start (store : Store) :
    Collecting store (store.enabledRoles.map fun role => ⟨role.id, .linked⟩) [] where
  comes job member := by
    obtain ⟨role, _, rfl⟩ := List.mem_map.mp member
    exact Job.comes_linked store role.id
  whole := by
    rw [List.nil_append, List.map_map]
    exact .refl _

theorem asked (collecting : Collecting store jobs holdings) {job : Job}
    (found : jobs[index]? = some job) (undone : job.gather.isDone = false) :
    let next : Job := { job with gather := job.gather.advance (Queries.ofStore store) job.roleId }
    Collecting store (jobs.set index next) holdings ∧
      Pool.total (Job.rest store) (jobs.set index next) < Pool.total (Job.rest store) jobs := by
  intro next
  have comes := collecting.comes job (List.mem_of_getElem? found)
  obtain ⟨later, fewer⟩ := Gather.advance_of_ok undone comes
  have counted := Pool.total_set (Job.rest store) found next
  refine ⟨⟨?_, ?_⟩, ?_⟩
  · intro other member
    rcases List.mem_or_eq_of_mem_set member with old | rfl
    · exact collecting.comes other old
    · exact later
  · obtain ⟨inRange, here⟩ := List.getElem?_eq_some_iff.mp found
    have same : (jobs.set index next).map (fun job => store.holdingOf job.roleId) =
        jobs.map fun job => store.holdingOf job.roleId := by
      have inRange : index < (jobs.map fun job => store.holdingOf job.roleId).length := by
        simpa using inRange
      have own : (jobs.map fun job => store.holdingOf job.roleId)[index] =
          store.holdingOf next.roleId := by simp [here, next]
      rw [List.map_set, ← own, List.set_getElem_self]
    rw [same]
    exact collecting.whole
  · have shrinks : next.rest store < job.rest store := Nat.succ_lt_succ fewer
    omega

theorem held (collecting : Collecting store jobs holdings) {roleId : String}
    {resources : List Resource} (found : jobs[index]? = some ⟨roleId, .done (.ok resources)⟩) :
    Collecting store (jobs.eraseIdx index) (holdings ++ [⟨roleId, resources⟩]) ∧
      Pool.total (Job.rest store) (jobs.eraseIdx index) < Pool.total (Job.rest store) jobs := by
  obtain ⟨inRange, here⟩ := List.getElem?_eq_some_iff.mp found
  have own := Job.holdingOf_eq (collecting.comes _ (List.mem_of_getElem? found))
  have rest : ((⟨roleId, .done (.ok resources)⟩ : Job) :: jobs.eraseIdx index).Perm jobs := by
    have same := List.getElem_cons_eraseIdx_perm inRange
    rwa [here] at same
  refine ⟨⟨?_, ?_⟩, ?_⟩
  · intro job member
    exact collecting.comes job (List.mem_of_mem_eraseIdx member)
  · refine .trans ?_ collecting.whole
    have mapped := rest.map fun job => store.holdingOf job.roleId
    rw [List.map_cons, own] at mapped
    rw [List.append_assoc]
    exact mapped.append_left holdings
  · exact Job.total_rest_eraseIdx store found

theorem total_rest_le (store : Store) (jobs : List Job) :
    Pool.total (Job.rest store) jobs ≤ Service.jobsWork (Job.fuel store) jobs := by
  induction jobs with
  | nil => exact Nat.zero_le _
  | cons job others ih =>
      have few := Gather.rounds_le (Queries.ofStore store) job.roleId (Job.fuel store) job.gather
      rw [Service.jobsWork] at ih ⊢
      rw [Pool.total, Job.rest, List.length_cons, Nat.succ_mul]
      omega

theorem not_lost (collecting : Collecting store jobs holdings) {roleId : String}
    {error : StoreError} : jobs[index]? ≠ some ⟨roleId, .done (.error error)⟩ := by
  intro found
  have comes := collecting.comes _ (List.mem_of_getElem? found)
  rw [Job.Comes, Gather.run_done] at comes
  cases comes

end Collecting

namespace Service

/-! ## Services in order -/

/-- The files give an engine that holds these lines and no others. -/
def Builds (service : Service) (compiled : Compiled) : Prop :=
  ∃ engine, service.buildEngine.2 = .ok engine ∧ verifyRules compiled engine = .ok ()

/-- A publishing will succeed, and what it leaves gives an engine. -/
def Serves (service : Service) (compiled : Compiled) (publish : Publish) : Prop :=
  (publish.final service.files).2.stage = .ended (.ok ()) ∧
    ({ service with files := (publish.final service.files).1 } : Service).Builds compiled

def policy (service : Service) : Compiled :=
  policyOf service.store.memory.holdings

def withPublished (service : Service) (compiled : Compiled) : Service :=
  { service with files := (publish service.files service.settings.policyPath compiled).1 }

structure InOrder (service : Service) : Prop where
  memory : service.store = { memory := service.store.memory }
  fits : service.settings.size.isTooDeep = false
  storable : service.policy.isEmpty = false
  publishes :
    (publish service.files service.settings.policyPath service.policy).2 = .ok ()
  builds : (service.withPublished service.policy).Builds service.policy

variable {service after : Service}

theorem buildEngine_of_same (files : after.files = service.files)
    (settings : after.settings = service.settings)
    (refusal : after.workshop.refusal = service.workshop.refusal)
    (report : after.workshop.report = service.workshop.report) :
    after.buildEngine.2 = service.buildEngine.2 := by
  simp only [buildEngine, files, settings, refusal, report]
  split
  · rfl
  · split <;> rfl

theorem Builds.of_same {compiled : Compiled} (builds : service.Builds compiled)
    (files : after.files = service.files) (keeps : service.Keeps after) :
    after.Builds compiled := by
  rw [Builds, buildEngine_of_same files keeps.settings keeps.refusal keeps.report]
  exact builds

theorem Serves.of_same {compiled : Compiled} {publish : Publish}
    (serves : service.Serves compiled publish) (files : after.files = service.files)
    (keeps : service.Keeps after) : after.Serves compiled publish := by
  rw [Serves, files]
  refine ⟨serves.1, serves.2.of_same rfl ?_⟩
  exact ⟨keeps.store, keeps.settings, keeps.signal, keeps.authorizer, keeps.refusal, keeps.report⟩

theorem InOrder.of_same (order : service.InOrder) (files : after.files = service.files)
    (keeps : service.Keeps after) : after.InOrder := by
  have same : after.policy = service.policy := by rw [policy, policy, keeps.store]
  have published : (after.withPublished service.policy).files =
      (service.withPublished service.policy).files := by
    simp only [withPublished, files, keeps.settings]
  refine ⟨?_, ?_, ?_, ?_, ?_⟩
  · rw [keeps.store]
    exact order.memory
  · rw [keeps.settings]
    exact order.fits
  · rw [same]
    exact order.storable
  · rw [same, files, keeps.settings]
    exact order.publishes
  · rw [same]
    exact order.builds.of_same published ⟨keeps.store, keeps.settings, keeps.signal,
      keeps.authorizer, keeps.refusal, keeps.report⟩

theorem builds_of_builtIn
    (publishes : (publish service.files service.settings.policyPath service.policy).2 = .ok ())
    (builtIn : (service.withPublished service.policy).BuildsBuiltIn) :
    (service.withPublished service.policy).Builds service.policy := by
  have read : (service.withPublished service.policy).files.readText
      (service.withPublished service.policy).settings.policyPath = .ok service.policy.render :=
    readText_of_published publishes
  exact ⟨roleModel.engine service.policy.render,
    (buildEngine_builtIn builtIn _).mpr ⟨_, read, rfl⟩,
    verifyRules_render (isPolicyOf_policyOf _)⟩

theorem InOrder.serves (order : service.InOrder) :
    service.Serves service.policy
      { path := service.settings.policyPath, text := service.policy.render } := by
  obtain ⟨_, _, storable, publishes, builds⟩ := order
  rw [withPublished, publish_eq storable] at builds
  rw [publish_eq storable] at publishes
  exact ⟨Publish.stage_of_answer publishes, builds⟩

/-! ## From stage to stage -/

/-- The pass has installed a generation for the marker that it has read. -/
def HasSwapped (service : Service) (pass : Pass) (result : Except PolicyError PassOutcome) :
    Prop :=
  ∃ generation, result = .ok (.swapped generation) ∧ generation.signal = pass.signal ∧
    service.handle.current = some generation

/-- A pass that has read the signal is going to swap. -/
def Promising (service : Service) (pass : Pass) : Prop :=
  match pass.stage with
  | .entered => False
  | .listing => service.InOrder
  | .gathering jobs holdings =>
      service.InOrder ∧ Collecting service.store.memory jobs holdings
  | .compiling pool =>
      service.InOrder ∧ ∃ holdings, holdings.Perm service.store.memory.holdings ∧
        Pool.Sound holdings pool
  | .publishing compiled publish => service.Serves compiled publish
  | .building compiled => service.Builds compiled
  | .installing _ _ => True
  | .finished result => service.HasSwapped pass result
  | .ended answer => ∃ result, answer = answerOf pass result ∧ service.HasSwapped pass result

end Service

/-- How far a stage is from the end: the stages, and the moves that are left in it. -/
def Stage.rest (store : Store) : Stage → Nat × Nat
  | .entered => (8, 0)
  | .listing => (7, 0)
  | .gathering jobs _ => (6, Pool.total (Job.rest store) jobs)
  | .compiling pool => (5, pool.work)
  | .publishing _ publish => (4, Publish.distance publish.stage)
  | .building _ => (3, 0)
  | .installing _ _ => (2, 0)
  | .finished _ => (1, 0)
  | .ended _ => (0, 0)

theorem Stage.ended_of_rest {store : Store} {stage : Stage} (none_ : (stage.rest store).1 = 0) :
    ∃ answer, stage = .ended answer := by
  cases stage with
  | ended answer => exact ⟨answer, rfl⟩
  | _ => cases none_

def Stage.Nearer (store : Store) : Stage → Stage → Prop :=
  InvImage (Prod.Lex (· < ·) (· < ·)) (Stage.rest store)

theorem Stage.wellFounded_nearer (store : Store) : WellFounded (Stage.Nearer store) :=
  InvImage.wf _ (WellFounded.prod_lex Nat.lt_wfRel.wf Nat.lt_wfRel.wf)

namespace Service

variable {service after : Service} {pass : Pass} {move : Move}

theorem eq_policy_of_outcome {holdings : List Holding} {pool : Pool} {compiled : Compiled}
    (same : holdings.Perm service.store.memory.holdings) (sound : Pool.Sound holdings pool)
    (outcome : pool.outcome = some (.ok compiled)) : compiled = service.policy := by
  obtain ⟨made, equal, policy⟩ := sound.outcome_isPolicyOf outcome
  cases equal
  exact policy.unique ((isPolicyOf_policyOf _).perm same)

theorem promising_moved (promising : service.Promising pass)
    (moved : Moved service pass move after) :
    ∃ stage, after.sync.pass = some { pass with stage := stage } ∧
      after.Promising { pass with stage := stage } ∧
      stage.Nearer service.store.memory pass.stage := by
  have keeps := moved.keeps
  have queries : service.InOrder →
      service.store.queries = Queries.ofStore service.store.memory := by
    intro order
    rw [order.memory]
    rfl
  have begun : pass.stage ≠ .entered := by
    intro here
    rw [Promising, here] at promising
    exact promising
  have further : ∀ {front back first second : Nat}, front < back →
      Prod.Lex (· < ·) (· < ·) (front, first) (back, second) :=
    fun less => .left _ _ less
  -- A promising pass has read the signal, its store refuses nothing, and its policy is not empty:
  -- the moves that would end it otherwise do not arise.
  cases moved with
  | informed signal here known newer => exact absurd here begun
  | uninformed error here unknown caller => exact absurd here begun
  | idle here known caller => exact absurd here begun
  | unchanged marker here known caller covered => exact absurd here begun
  | unavailable error here unknown caller => exact absurd here begun
  | unlisted error here refused =>
      rw [Promising, here] at promising
      rw [queries promising] at refused
      cases refused
  | tooDeep here deep =>
      rw [Promising, here] at promising
      rw [promising.fits] at deep
      cases deep
  | listed roles here answered fits =>
      rw [Promising, here] at promising
      rw [queries promising] at answered
      cases answered
      refine ⟨_, rfl, ⟨promising.of_same rfl keeps, Collecting.start _⟩, ?_⟩
      rw [here]
      exact further (by decide)
  | asked jobs holdings index job here found undone =>
      rw [Promising, here] at promising
      obtain ⟨order, collecting⟩ := promising
      obtain ⟨later, fewer⟩ := collecting.asked found undone
      rw [queries order] at keeps ⊢
      refine ⟨_, rfl, ⟨order.of_same rfl keeps, later⟩, ?_⟩
      rw [here]
      exact .right _ fewer
  | held jobs holdings index roleId resources here found =>
      rw [Promising, here] at promising
      obtain ⟨order, collecting⟩ := promising
      obtain ⟨later, fewer⟩ := collecting.held found
      refine ⟨_, rfl, ⟨order.of_same rfl keeps, later⟩, ?_⟩
      rw [here]
      exact .right _ fewer
  | lost jobs holdings index roleId error here found =>
      rw [Promising, here] at promising
      exact absurd found promising.2.not_lost
  | gathered holdings here =>
      rw [Promising, here] at promising
      obtain ⟨order, collecting⟩ := promising
      have whole := collecting.whole
      rw [List.map_nil, List.append_nil] at whole
      refine ⟨_, rfl, ⟨order.of_same rfl keeps, holdings, whole, Pool.Sound.start _ holdings⟩, ?_⟩
      rw [here]
      exact further (by decide)
  | compiled pool next event here stepped =>
      rw [Promising, here] at promising
      obtain ⟨order, holdings, same, sound⟩ := promising
      refine ⟨_, rfl, ⟨order.of_same rfl keeps, holdings, same, sound.step stepped⟩, ?_⟩
      rw [here]
      exact .right _ (Pool.work_step stepped)
  | uncompiled pool text here outcome =>
      rw [Promising, here] at promising
      obtain ⟨_, holdings, _, sound⟩ := promising
      exact absurd outcome (sound.outcome_ne_error text)
  | empty pool compiled here outcome none_ =>
      rw [Promising, here] at promising
      obtain ⟨order, holdings, same, sound⟩ := promising
      rw [eq_policy_of_outcome same sound outcome, order.storable] at none_
      cases none_
  | received pool compiled here outcome some_ =>
      rw [Promising, here] at promising
      obtain ⟨order, holdings, same, sound⟩ := promising
      have whole := eq_policy_of_outcome same sound outcome
      subst whole
      refine ⟨_, rfl, order.serves.of_same rfl keeps, ?_⟩
      rw [here]
      exact further (by decide)
  | publishing compiled publish here going =>
      rw [Promising, here] at promising
      obtain ⟨done, builds⟩ := promising
      have unended : ¬ publish.HasEnded := fun ⟨answer, finished⟩ => going answer finished
      have same := Publish.final_advance unended service.files
      rw [← same] at done builds
      refine ⟨_, rfl, ⟨done, builds.of_same rfl ?_⟩, ?_⟩
      · exact ⟨rfl, rfl, rfl, rfl, rfl, rfl⟩
      · rw [here]
        exact .right _ (Publish.distance_advance unended service.files)
  | published compiled publish here done =>
      rw [Promising, here] at promising
      obtain ⟨_, builds⟩ := promising
      rw [Publish.final_of_hasEnded ⟨_, done⟩] at builds
      refine ⟨_, rfl, builds.of_same rfl keeps, ?_⟩
      rw [here]
      exact further (by decide)
  | unpublished compiled publish error here failed =>
      rw [Promising, here] at promising
      have done := promising.1
      rw [Publish.final_of_hasEnded ⟨_, failed⟩, failed] at done
      cases done
  | unbuilt compiled error here failed =>
      rw [Promising, here] at promising
      obtain ⟨engine, made, _⟩ := promising
      rw [made] at failed
      cases failed
  | mismatched compiled engine error here made unequal =>
      rw [Promising, here] at promising
      obtain ⟨other, right, equal⟩ := promising
      rw [right] at made
      cases made
      rw [equal] at unequal
      cases unequal
  | built compiled engine here made equal =>
      refine ⟨_, rfl, trivial, ?_⟩
      rw [here]
      exact further (by decide)
  | installed compiled engine here =>
      refine ⟨_, rfl, ⟨_, rfl, rfl, rfl⟩, ?_⟩
      rw [here]
      exact further (by decide)
  | recorded result here =>
      rw [Promising, here] at promising
      refine ⟨_, rfl, ⟨result, rfl, promising⟩, ?_⟩
      rw [here]
      exact further (by decide)

theorem exists_next_of_gathering {jobs : List Job} {holdings : List Holding}
    (running : service.sync.pass = some pass) (here : pass.stage = .gathering jobs holdings) :
    ∃ move, nextMove? (.gathering jobs holdings) = some move ∧
      ∃ after, service.move? move = some after := by
  cases jobs with
  | nil =>
      refine ⟨.onward, rfl, ?_⟩
      simp only [move?, running, here, Option.some.injEq, exists_eq']
  | cons job rest =>
      refine ⟨.gather 0, rfl, ?_⟩
      simp only [move?, running, here, gatherAt, service.settings.size.workers_pos, if_true,
        List.getElem?_cons_zero, Option.map_some, Option.some.injEq, exists_eq']

theorem exists_next_of_compiling {pool : Pool} {holdings : List Holding}
    (running : service.sync.pass = some pass) (here : pass.stage = .compiling pool)
    (sound : Pool.Sound holdings pool) :
    ∃ move, nextMove? (.compiling pool) = some move ∧
      ∃ after, service.move? move = some after := by
  cases outcome : pool.outcome with
  | none =>
      obtain ⟨able, member, moves⟩ := sound.exists_event outcome
      have some_ : (pool.nextEvent? Formatter.plain).isSome = true :=
        List.find?_isSome.mpr ⟨able, member, moves⟩
      obtain ⟨event, first⟩ := Option.isSome_iff_exists.mp some_
      have able_ : (pool.step? Formatter.plain event).isSome = true :=
        List.find?_some (p := fun event => (pool.step? Formatter.plain event).isSome) first
      obtain ⟨next, stepped⟩ := Option.isSome_iff_exists.mp able_
      refine ⟨.compile event, ?_, ?_⟩
      · rw [nextMove?, outcome, first]
        rfl
      · simp only [move?, running, here, stepped, Option.map_some, Option.some.injEq,
          exists_eq']
  | some answer =>
      refine ⟨.onward, ?_, ?_⟩
      · rw [nextMove?, outcome]
        rfl
      · simp only [move?, running, here, outcome, Option.map_some, Option.some.injEq,
          exists_eq']

theorem exists_next (running : service.sync.pass = some pass)
    (promising : service.Promising pass) (going : ∀ answer, pass.stage ≠ .ended answer) :
    ∃ move, nextMove? pass.stage = some move ∧ ∃ after, service.move? move = some after := by
  cases here : pass.stage with
  | gathering jobs holdings => exact exists_next_of_gathering running here
  | compiling pool =>
      rw [Promising, here] at promising
      obtain ⟨_, holdings, _, sound⟩ := promising
      exact exists_next_of_compiling running here sound
  | ended answer => exact absurd here (going answer)
  | _ =>
      refine ⟨.onward, rfl, ?_⟩
      simp only [move?, running, here, Option.some.injEq, exists_eq']

/-- Whichever moves are made, so many of them come to the goal. -/
inductive Arrives (goal : Service → Prop) : Service → Prop
  | there {service : Service} (here : goal service) : Arrives goal service
  | onward {service : Service} (able : ∃ move after, service.move? move = some after)
      (all : ∀ move after, service.move? move = some after → Arrives goal after) :
      Arrives goal service

def EndsSwapped (pass : Pass) (service : Service) : Prop :=
  ∃ generation, service.conclude.2 = some (answerOf pass (.ok (.swapped generation))) ∧
    generation.signal = pass.signal ∧ service.handle.current = some generation

theorem endsSwapped_of_ended {answer : CallAnswer} (running : service.sync.pass = some pass)
    (promising : service.Promising pass) (here : pass.stage = .ended answer) :
    service.EndsSwapped pass := by
  rw [Promising, here] at promising
  obtain ⟨result, own, generation, swapped, signal, current⟩ := promising
  refine ⟨generation, ?_, signal, current⟩
  simp only [conclude, running, here, own, swapped]

theorem arrives_of_promising (running : service.sync.pass = some pass)
    (promising : service.Promising pass) : Arrives (EndsSwapped pass) service := by
  generalize stored : service.store.memory = store
  generalize stage : pass.stage = here
  induction here using (Stage.wellFounded_nearer store).induction generalizing service pass with
  | _ here ih =>
      by_cases finished : ∃ answer, pass.stage = .ended answer
      · obtain ⟨answer, finished⟩ := finished
        exact .there (endsSwapped_of_ended running promising finished)
      · obtain ⟨move, _, able⟩ :=
          exists_next running promising fun answer ended => finished ⟨answer, ended⟩
        refine .onward ⟨move, able⟩ ?_
        intro move after made
        obtain ⟨own, ran, moved⟩ := moved_of_move? made
        rw [running] at ran
        cases ran
        obtain ⟨next, runs, later, nearer⟩ := promising_moved promising moved
        rw [stored, stage] at nearer
        have kept : after.store.memory = store := by rw [moved.keeps.store, stored]
        have arrives := ih next nearer runs later kept rfl
        exact arrives

/-! ## Calls at one go -/

theorem advance_of_promising (running : service.sync.pass = some pass)
    (promising : service.Promising pass) (going : ∀ answer, pass.stage ≠ .ended answer) :
    ∃ stage, service.advance.sync.pass = some { pass with stage := stage } ∧
      service.advance.Promising { pass with stage := stage } ∧
      stage.Nearer service.store.memory pass.stage ∧ service.advance.store = service.store := by
  obtain ⟨move, next, after, made⟩ := exists_next running promising going
  have same : service.advance = after := by
    simp only [advance, running, next, Option.bind_some, made, Option.getD_some]
  obtain ⟨own, ran, moved⟩ := moved_of_move? made
  rw [running] at ran
  cases ran
  obtain ⟨stage, runs, later, nearer⟩ := promising_moved promising moved
  rw [same]
  exact ⟨stage, runs, later, nearer, moved.keeps.store⟩

/-- Moves lead no stage back, and with one more than the stage has left they lead on. -/
theorem advanceFor_of_promising (fuel : Nat) (running : service.sync.pass = some pass)
    (promising : service.Promising pass) :
    ∃ stage, (advanceFor isEnded fuel service).sync.pass = some { pass with stage := stage } ∧
      (advanceFor isEnded fuel service).Promising { pass with stage := stage } ∧
      (advanceFor isEnded fuel service).store = service.store ∧
      (stage.rest service.store.memory).1 ≤ (pass.stage.rest service.store.memory).1 ∧
      ((pass.stage.rest service.store.memory).2 < fuel →
        (stage.rest service.store.memory).1 ≤ (pass.stage.rest service.store.memory).1 - 1) := by
  induction fuel generalizing service pass with
  | zero => exact ⟨pass.stage, running, promising, rfl, Nat.le_refl _, fun less => by omega⟩
  | succ fuel ih =>
      by_cases finished : ∃ answer, pass.stage = .ended answer
      · obtain ⟨answer, finished⟩ := finished
        have stays : advanceFor isEnded (fuel + 1) service = service := by
          rw [advanceFor, isAt_eq running, finished]
          rfl
        rw [stays]
        refine ⟨pass.stage, running, promising, rfl, Nat.le_refl _, fun _ => ?_⟩
        rw [finished]
        exact Nat.le_refl 0
      · have going : ∀ answer, pass.stage ≠ .ended answer := fun answer ended =>
          finished ⟨answer, ended⟩
        obtain ⟨next, runs, later, nearer, kept⟩ :=
          advance_of_promising running promising going
        have unended : service.isAt isEnded = false := by
          rw [isAt_eq running]
          cases here : pass.stage with
          | ended answer => exact absurd here (going answer)
          | _ => rfl
        have goes : advanceFor isEnded (fuel + 1) service =
            advanceFor isEnded fuel service.advance := by
          rw [advanceFor, unended]
          rfl
        obtain ⟨stage, ran, promises, same, back, onward⟩ := ih runs later
        rw [goes]
        rw [kept] at same back onward
        simp only at back onward
        refine ⟨stage, ran, promises, same, ?_⟩
        rcases Prod.lex_def.mp nearer with first | ⟨equal, second⟩
        · exact ⟨by omega, fun _ => by omega⟩
        · refine ⟨by omega, fun enough => ?_⟩
          have further := onward (by omega)
          omega

theorem rest_lt_stageFuel (running : service.sync.pass = some pass)
    (going : ∀ answer, pass.stage ≠ .ended answer) :
    (pass.stage.rest service.store.memory).2 < service.stageFuel := by
  simp only [stageFuel, running]
  cases here : pass.stage with
  | gathering jobs holdings =>
      exact Nat.lt_succ_of_le (Collecting.total_rest_le service.store.memory jobs)
  | ended answer => exact absurd here (going answer)
  | _ => exact Nat.lt_succ_self _

theorem advanceThrough_of_promising (stages : Nat) (running : service.sync.pass = some pass)
    (promising : service.Promising pass) :
    ∃ stage,
      (advanceThrough isEnded stages service).sync.pass = some { pass with stage := stage } ∧
      (advanceThrough isEnded stages service).Promising { pass with stage := stage } ∧
      (stage.rest service.store.memory).1 ≤ (pass.stage.rest service.store.memory).1 - stages := by
  induction stages generalizing service pass with
  | zero => exact ⟨pass.stage, running, promising, Nat.le_refl _⟩
  | succ stages ih =>
      obtain ⟨next, runs, later, kept, back, onward⟩ :=
        advanceFor_of_promising service.stageFuel running promising
      obtain ⟨stage, ran, promises, rest⟩ := ih runs later
      rw [kept] at rest
      simp only at rest
      refine ⟨stage, ran, promises, ?_⟩
      by_cases finished : ∃ answer, pass.stage = .ended answer
      · obtain ⟨answer, finished⟩ := finished
        rw [finished] at back
        have none_ : (next.rest service.store.memory).1 ≤ 0 := back
        omega
      · have further :=
          onward (rest_lt_stageFuel running fun answer ended => finished ⟨answer, ended⟩)
        omega

/-! ## From the beginning -/

/-- Nothing keeps a call from passing on, but that a tick has nothing to do for a marker that is
covered, or for none. -/
def IsDue (service : Service) (caller : Caller) : Prop :=
  caller = .tick →
    ∃ marker, service.heard = .ok (some marker) ∧ service.sync.covers marker = false

def informedPass (service : Service) (caller : Caller) : Pass :=
  { caller := caller, signal := service.heard.toOption.join, stage := .listing }

theorem begin_of_free {caller : Caller} (free : service.sync.pass = none) :
    service.begin caller = (service.enter caller, .started) := by
  simp only [begin, free]

theorem listing_of_enter {caller : Caller} (order : service.InOrder)
    (due : service.IsDue caller) (made : (service.enter caller).move? move = some after) :
    after.sync.pass = some (service.informedPass caller) ∧
      after.Promising (service.informedPass caller) := by
  obtain ⟨pass, ran, moved⟩ := moved_of_move? made
  cases ran
  have keeps : service.Keeps after := by
    have kept := moved.keeps
    exact ⟨kept.store, kept.settings, kept.signal, kept.authorizer, kept.refusal, kept.report⟩
  have heard : (service.enter caller).heard = service.heard := rfl
  have lists : after.files = service.files → after.Promising (service.informedPass caller) :=
    fun files => order.of_same files keeps
  cases moved with
  | informed signal here known newer =>
      refine ⟨?_, lists rfl⟩
      rw [informedPass, ← heard, known]
      rfl
  | uninformed error here unknown tick =>
      refine ⟨?_, lists rfl⟩
      rw [informedPass, ← heard, unknown]
      rfl
  | idle here known tick =>
      obtain ⟨marker, announced, _⟩ := due tick
      rw [← heard, known] at announced
      cases announced
  | unchanged marker here known tick covered =>
      obtain ⟨other, announced, uncovered⟩ := due tick
      rw [← heard, known] at announced
      cases announced
      have same : service.sync.covers marker = true := covered
      rw [uncovered] at same
      cases same
  | unavailable error here unknown tick =>
      obtain ⟨marker, announced, _⟩ := due tick
      rw [← heard, unknown] at announced
      cases announced
  | _ => contradiction

/-- A call that is due over a service in order comes to a swap, whichever moves its pass makes. -/
theorem arrives_of_inOrder (caller : Caller) (order : service.InOrder)
    (free : service.sync.pass = none) (due : service.IsDue caller) :
    Arrives (EndsSwapped (service.informedPass caller)) (service.begin caller).1 := by
  rw [begin_of_free free]
  refine .onward ⟨.onward, _, rfl⟩ ?_
  intro move after made
  obtain ⟨running, promising⟩ := listing_of_enter order due made
  exact arrives_of_promising running promising

theorem call_of_inOrder (caller : Caller) (order : service.InOrder)
    (free : service.sync.pass = none) (due : service.IsDue caller) :
    ∃ generation,
      (service.call caller).2 =
        some (answerOf (service.informedPass caller) (.ok (.swapped generation))) ∧
      generation.signal = service.heard.toOption.join ∧
      (service.call caller).1.handle.current = some generation := by
  have read : (service.enter caller).move? .onward = some (service.enter caller).advance := rfl
  obtain ⟨running, promising⟩ := listing_of_enter order due read
  obtain ⟨stage, ran, promises, near⟩ := advanceThrough_of_promising 8 running promising
  generalize reached : advanceThrough isEnded 8 (service.enter caller).advance = ended
    at ran promises
  have called : service.call caller = ended.conclude := by
    rw [call, begin_of_free free, ← reached]
    rfl
  obtain ⟨answer, finished⟩ := Stage.ended_of_rest (Nat.le_zero.mp near)
  obtain ⟨generation, answers, signal, current⟩ := endsSwapped_of_ended ran promises finished
  rw [called]
  refine ⟨generation, answers, signal, ?_⟩
  subst finished
  rw [conclude, ran]
  exact current

end Service

end RoleGrants
