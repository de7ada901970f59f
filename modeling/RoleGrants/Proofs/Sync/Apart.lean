import RoleGrants.Proofs.Sync.Failing

/-! # Roles apart from one another

Over rows that stay, a pass compiles what its situation offers, whichever of its queries
are refused on the way and in whatever order its jobs and its pool work
(`Service.Within.happens`).  So two passes whose situations differ in one role have the
same lines of all others.

And it comes to publishing them if there are any: no role that fails takes a pass from
gathering and compiling to an empty policy or to an error (`arrives_of_isWorking`). -/

set_option autoImplicit false

namespace RoleGrants

/-! ## Runs in a situation -/

def Gather.hasFailed : Gather → Bool
  | .done (.error _) => true
  | _ => false

def Job.FailsFor (fails : String → Prop) (job : Job) : Prop :=
  job.gather.isDone = true → (fails job.roleId ↔ job.gather.hasFailed = true)

def Stage.jobs : Stage → List Job
  | .gathering jobs _ => jobs
  | _ => []

/-- The policy that a pass has in its hands. -/
def Stage.compiled? : Stage → Option Compiled
  | .compiling pool => pool.outcome.bind Except.toOption
  | .publishing compiled _ => some compiled
  | .building compiled => some compiled
  | .installing compiled _ => some compiled
  | _ => none

def Stage.isWorking : Stage → Bool
  | .gathering _ _ => true
  | .compiling _ => true
  | _ => false

namespace Service

def jobs (service : Service) : List Job :=
  match service.sync.pass with
  | some pass => pass.stage.jobs
  | none => []

def FailsFor (fails : String → Prop) (service : Service) : Prop :=
  ∀ job ∈ service.jobs, job.FailsFor fails

/-- Anything may change around a service but its rows and its passes: queries may be refused that
were not, and the other way round. -/
structure KeepsRows (service after : Service) : Prop where
  memory : after.store.memory = service.store.memory
  sync : after.sync = service.sync

end Service

open Service

/-- The service has come about over these rows, and while its passes gathered these roles failed
and no others. -/
def Situation.Shows (situation : Situation) (service : Service) : Prop :=
  ∃ started : Service, started.store.memory = situation.store ∧ started.sync.pass = none ∧
    Runs (FailsFor situation.fails) KeepsRows started service

/-! ## What a pass has -/

structure Compiled.Comprises (situation : Situation) (compiled : Compiled) : Prop where
  ascends : compiled.lines.Pairwise fun left right => left < right
  mem_lines : ∀ line, line ∈ compiled.lines ↔ situation.Offers line

theorem Compiled.Comprises.isEmpty_eq_false {situation : Situation} {compiled : Compiled}
    {line : Line} (comprises : compiled.Comprises situation) (offered : situation.Offers line) :
    compiled.isEmpty = false := by
  have member := (comprises.mem_lines line).mpr offered
  rw [isEmpty, List.isEmpty_eq_false_iff_exists_mem]
  exact ⟨line, member⟩

def Stage.IsSifted (situation : Situation) : Stage → Prop
  | .gathering jobs holdings => Sifted situation jobs holdings
  | .compiling pool => ∃ holdings, Sifted situation [] holdings ∧ Pool.Sound holdings pool
  | .publishing compiled _ => compiled.Comprises situation
  | .building compiled => compiled.Comprises situation
  | .installing compiled _ => compiled.Comprises situation
  | .finished (.ok .empty) => ∀ line, ¬ situation.Offers line
  | _ => True

theorem Stage.IsSifted.comprises {situation : Situation} {stage : Stage} {compiled : Compiled}
    (sifted : stage.IsSifted situation) (given : stage.compiled? = some compiled) :
    compiled.Comprises situation := by
  cases stage with
  | compiling pool =>
      obtain ⟨holdings, whole, sound⟩ := sifted
      obtain ⟨answer, outcome, made⟩ := Option.bind_eq_some_iff.mp given
      obtain ⟨same, rfl, policy⟩ := sound.outcome_isPolicyOf outcome
      cases made
      exact ⟨policy.ascends, whole.mem_lines policy⟩
  | publishing other publish =>
      cases given
      exact sifted
  | building other =>
      cases given
      exact sifted
  | installing other engine =>
      cases given
      exact sifted
  | _ => cases given

namespace Service

variable {situation : Situation} {service after : Service} {pass : Pass} {move : Move}

structure Within (situation : Situation) (service : Service) : Prop where
  memory : service.store.memory = situation.store
  sifted : ∀ pass, service.sync.pass = some pass → pass.stage.IsSifted situation

theorem Within.exists_refusal (within : service.Within situation) :
    ∃ refusal, service.store.queries = (Queries.ofStore situation.store).refusing refusal := by
  rw [← within.memory]
  exact service.store.exists_refusal

theorem FailsFor.job (fails : service.FailsFor situation.fails)
    (running : service.sync.pass = some pass) {jobs : List Job} {holdings : List Holding}
    (here : pass.stage = .gathering jobs holdings) {index : Nat} {job : Job}
    (found : jobs[index]? = some job) : job.FailsFor situation.fails := by
  have own : service.jobs = jobs := by simp only [Service.jobs, running, here, Stage.jobs]
  exact fails job (own ▸ List.mem_of_getElem? found)

theorem isSifted_moved (within : service.Within situation)
    (running : service.sync.pass = some pass) (fails : service.FailsFor situation.fails)
    (moved : Moved service pass move after) :
    ∃ next, after.sync.pass = some next ∧ next.stage.IsSifted situation := by
  have sifted := within.sifted pass running
  have comprises : ∀ {compiled : Compiled}, pass.stage.compiled? = some compiled →
      compiled.Comprises situation := fun given => sifted.comprises given
  cases moved with
  | informed signal here known newer => exact ⟨_, rfl, trivial⟩
  | uninformed error here unknown caller => exact ⟨_, rfl, trivial⟩
  | idle here known caller => exact ⟨_, rfl, trivial⟩
  | unchanged marker here known caller covered => exact ⟨_, rfl, trivial⟩
  | unavailable error here unknown caller => exact ⟨_, rfl, trivial⟩
  | unlisted error here refused => exact ⟨_, rfl, trivial⟩
  | tooDeep here deep => exact ⟨_, rfl, trivial⟩
  | listed roles here answered fits =>
      obtain ⟨refusal, queries⟩ := within.exists_refusal
      rw [queries] at answered
      rcases Queries.orRefuse_cases (refusal .enabledRoles) (.ok situation.store.enabledRoles)
        with same | ⟨error, refused⟩
      · have listed := same.symm.trans answered
        cases listed
        exact ⟨_, rfl, Sifted.start situation⟩
      · have listed := refused.symm.trans answered
        cases listed
  | asked jobs holdings index job here found undone =>
      rw [here] at sifted
      obtain ⟨refusal, queries⟩ := within.exists_refusal
      rw [queries]
      exact ⟨_, rfl, (Sifted.asked sifted found undone refusal).1⟩
  | held jobs holdings index roleId resources here found =>
      rw [here] at sifted
      have gathered := mt (fails.job running here found rfl).mp Bool.false_ne_true
      exact ⟨_, rfl, Sifted.held sifted found gathered⟩
  | lost jobs holdings index roleId error here found =>
      rw [here] at sifted
      have failed := (fails.job running here found rfl).mpr rfl
      exact ⟨_, rfl, Sifted.lost sifted found failed⟩
  | gathered holdings here =>
      rw [here] at sifted
      exact ⟨_, rfl, holdings, sifted, Pool.Sound.start _ holdings⟩
  | compiled pool next event here stepped =>
      rw [here] at sifted
      obtain ⟨holdings, whole, sound⟩ := sifted
      exact ⟨_, rfl, holdings, whole, sound.step stepped⟩
  | uncompiled pool text here outcome =>
      rw [here] at sifted
      obtain ⟨holdings, _, sound⟩ := sifted
      exact absurd outcome (sound.outcome_ne_error text)
  | empty pool compiled here outcome none_ =>
      have whole := comprises (by rw [here, Stage.compiled?, outcome]; rfl)
      refine ⟨_, rfl, ?_⟩
      intro line offered
      rw [whole.isEmpty_eq_false offered] at none_
      cases none_
  | received pool compiled here outcome some_ =>
      exact ⟨_, rfl, comprises (by rw [here, Stage.compiled?, outcome]; rfl)⟩
  | publishing compiled publish here => exact ⟨_, rfl, comprises (by rw [here]; rfl)⟩
  | published compiled publish here done => exact ⟨_, rfl, comprises (by rw [here]; rfl)⟩
  | unpublished compiled publish error here failed => exact ⟨_, rfl, trivial⟩
  | unbuilt compiled error here failed => exact ⟨_, rfl, trivial⟩
  | mismatched compiled engine error here made unequal => exact ⟨_, rfl, trivial⟩
  | built compiled engine here made equal => exact ⟨_, rfl, comprises (by rw [here]; rfl)⟩
  | installed compiled engine here => exact ⟨_, rfl, trivial⟩
  | recorded result here => exact ⟨_, rfl, trivial⟩

theorem Within.of_keepsRows (within : service.Within situation) (keeps : service.KeepsRows after) :
    after.Within situation := by
  refine ⟨keeps.memory.trans within.memory, ?_⟩
  rw [keeps.sync]
  exact within.sifted

theorem Within.moved (within : service.Within situation)
    (running : service.sync.pass = some pass) (fails : service.FailsFor situation.fails)
    (moved : Moved service pass move after) : after.Within situation := by
  obtain ⟨next, rest, sifted⟩ := isSifted_moved within running fails moved
  refine ⟨by rw [moved.keeps.store, within.memory], ?_⟩
  intro other ran
  rw [rest] at ran
  cases ran
  exact sifted

theorem Within.happens (within : service.Within situation)
    (step : Happens (FailsFor situation.fails) KeepsRows service after) :
    after.Within situation := by
  rcases step.told with handover | ⟨pass, move, running, fails, moved⟩ | keeps
  · exact ⟨by rw [handover.keeps.store, within.memory], handover.stage trivial within.sifted⟩
  · exact within.moved running fails moved
  · exact within.of_keepsRows keeps

end Service

theorem Situation.Shows.within {situation : Situation} {service : Service}
    (shows : situation.Shows service) : service.Within situation := by
  obtain ⟨started, memory, unbegun, run⟩ := shows
  induction run with
  | refl =>
      refine ⟨memory, ?_⟩
      intro pass running
      rw [unbegun] at running
      cases running
  | tail _ step ih => exact ih.happens step

/-! ## On to publishing -/

namespace Service

variable {situation : Situation} {service after : Service} {pass : Pass} {move : Move}

inductive ArrivesAmid (allowed : Service → Prop) (around : Service → Service → Prop)
    (goal : Service → Prop) : Service → Prop
  | there {service : Service} (here : goal service) : ArrivesAmid allowed around goal service
  | onward {service : Service}
      (able : ∀ changed, around service changed →
        ∃ move after, changed.move? move = some after)
      (all : ∀ changed, around service changed → allowed changed →
        ∀ move after, changed.move? move = some after → ArrivesAmid allowed around goal after) :
      ArrivesAmid allowed around goal service

/-- The pass is about to publish what is offered, which is not nothing.  The rest is a matter of
the files: if they serve it swaps. -/
def Publishes (situation : Situation) (pass : Pass) (service : Service) : Prop :=
  ∃ compiled publish,
    service.sync.pass = some { pass with stage := .publishing compiled publish } ∧
      compiled.lines ≠ [] ∧ (∀ line, line ∈ compiled.lines ↔ situation.Offers line) ∧
      (service.Serves compiled publish → Arrives (EndsSwapped pass) service)

theorem worked_of_moved (within : service.Within situation)
    (running : service.sync.pass = some pass) (working : pass.stage.isWorking = true)
    (offered : ∃ line, situation.Offers line) (moved : Moved service pass move after) :
    ∃ stage, after.sync.pass = some { pass with stage := stage } ∧
      (stage.isWorking = true ∧ stage.Nearer situation.store pass.stage ∨
        ∃ compiled publish, stage = .publishing compiled publish ∧ compiled.lines ≠ []) := by
  have sifted := within.sifted pass running
  cases moved with
  | asked jobs holdings index job here found undone =>
      rw [here] at sifted
      obtain ⟨refusal, queries⟩ := within.exists_refusal
      refine ⟨_, rfl, .inl ⟨rfl, ?_⟩⟩
      rw [here, queries]
      exact .right _ (Sifted.asked sifted found undone refusal).2
  | held jobs holdings index roleId resources here found =>
      refine ⟨_, rfl, .inl ⟨rfl, ?_⟩⟩
      rw [here]
      exact .right _ (Job.total_rest_eraseIdx situation.store found)
  | lost jobs holdings index roleId error here found =>
      refine ⟨_, rfl, .inl ⟨rfl, ?_⟩⟩
      rw [here]
      exact .right _ (Job.total_rest_eraseIdx situation.store found)
  | gathered holdings here =>
      refine ⟨_, rfl, .inl ⟨rfl, ?_⟩⟩
      rw [here]
      exact .left _ _ (by decide)
  | compiled pool next event here stepped =>
      refine ⟨_, rfl, .inl ⟨rfl, ?_⟩⟩
      rw [here]
      exact .right _ (Pool.work_step stepped)
  | uncompiled pool text here outcome =>
      rw [here] at sifted
      obtain ⟨holdings, _, sound⟩ := sifted
      exact absurd outcome (sound.outcome_ne_error text)
  | empty pool compiled here outcome none_ =>
      have whole : compiled.Comprises situation :=
        sifted.comprises (by rw [here, Stage.compiled?, outcome]; rfl)
      obtain ⟨line, offer⟩ := offered
      rw [whole.isEmpty_eq_false offer] at none_
      cases none_
  | received pool compiled here outcome some_ =>
      refine ⟨_, rfl, .inr ⟨compiled, _, rfl, ?_⟩⟩
      intro empty
      rw [Compiled.isEmpty, empty] at some_
      cases some_
  | _ => simp_all [Stage.isWorking]

theorem exists_move_of_isWorking (within : service.Within situation)
    (running : service.sync.pass = some pass) (working : pass.stage.isWorking = true) :
    ∃ move after, service.move? move = some after := by
  have sifted := within.sifted pass running
  cases here : pass.stage with
  | gathering jobs holdings =>
      obtain ⟨move, _, able⟩ := exists_next_of_gathering running here
      exact ⟨move, able⟩
  | compiling pool =>
      rw [here] at sifted
      obtain ⟨holdings, _, sound⟩ := sifted
      obtain ⟨move, _, able⟩ := exists_next_of_compiling running here sound
      exact ⟨move, able⟩
  | _ =>
      rw [here] at working
      cases working

/-- With something offered a pass at work comes to publishing it. -/
theorem arrives_of_isWorking (within : service.Within situation)
    (running : service.sync.pass = some pass) (working : pass.stage.isWorking = true)
    (offered : ∃ line, situation.Offers line) :
    ArrivesAmid (FailsFor situation.fails) KeepsRows (Publishes situation pass) service := by
  generalize stage : pass.stage = here
  induction here using (Stage.wellFounded_nearer situation.store).induction
    generalizing service pass with
  | _ here ih =>
      refine .onward ?_ ?_
      · intro changed keeps
        exact exists_move_of_isWorking (within.of_keepsRows keeps) (keeps.sync ▸ running) working
      · intro changed keeps fails move after made
        have still := within.of_keepsRows keeps
        obtain ⟨own, ran, moved⟩ := moved_of_move? made
        rw [keeps.sync, running] at ran
        cases ran
        have runs : changed.sync.pass = some pass := keeps.sync ▸ running
        have later := still.moved runs fails moved
        obtain ⟨next, rest, onward⟩ := worked_of_moved still runs working offered moved
        rcases onward with ⟨works, nearer⟩ | ⟨compiled, publish, rfl, some_⟩
        · rw [stage] at nearer
          have arrives := ih next nearer later rest works rfl
          exact arrives
        · have comprises : compiled.Comprises situation := (later.sifted _ rest).comprises rfl
          refine .there ⟨compiled, publish, rest, some_, comprises.mem_lines, ?_⟩
          intro serves
          have arrives := arrives_of_promising rest serves
          exact arrives

end Service

/-! ## Two situations -/

/-- One role more or less, or failing or not, is seen in its own lines alone: services that have
come about in situations which differ in that role compile the same lines of all others, however
they worked.  A role that fails or is not enabled has no line, and with a line of any other
role a pass at work comes to publishing it: it does not end with an error or with nothing. -/
theorem other_roles_keep_their_lines (roleId : String) (situation other : Situation)
    (agree : Situation.AgreeBut roleId situation other) (service beside : Service)
    (shows : situation.Shows service) (showsOther : other.Shows beside) (pass passBeside : Pass)
    (running : service.sync.pass = some pass) (runningOther : beside.sync.pass = some passBeside) :
    (∀ compiled, pass.stage.compiled? = some compiled →
      (∀ line, line ∈ compiled.lines ↔ situation.Offers line) ∧
      (∀ line ∈ compiled.lines, situation.store.HasRole line.subject ∧
        ¬ situation.fails line.subject) ∧
      ∀ others, passBeside.stage.compiled? = some others →
        (compiled.lines.filter fun line => line.subject ≠ roleId) =
          others.lines.filter fun line => line.subject ≠ roleId) ∧
      ((∃ line, situation.Offers line) →
        pass.stage ≠ .finished (.ok .empty) ∧
          (pass.stage.isWorking = true → ArrivesAmid (FailsFor situation.fails) KeepsRows
            (Publishes situation pass) service)) := by
  have within := shows.within
  have sifted := within.sifted pass running
  refine ⟨?_, ?_⟩
  · intro compiled given
    have comprises := sifted.comprises given
    refine ⟨comprises.mem_lines, ?_, ?_⟩
    · intro line member
      have offered := (comprises.mem_lines line).mp member
      exact ⟨offered.enabled, offered.gathered⟩
    · intro others givenOther
      have comprisesOther :=
        (showsOther.within.sifted passBeside runningOther).comprises givenOther
      refine Line.strictOrder.eq_of_ascending (comprises.ascends.filter _)
        (comprisesOther.ascends.filter _) ?_
      intro line
      simp only [List.mem_filter, decide_eq_true_eq, comprises.mem_lines,
        comprisesOther.mem_lines]
      exact and_congr_left fun apart => agree.offers_iff apart
  · rintro ⟨line, offered⟩
    refine ⟨?_, fun working => arrives_of_isWorking within running working ⟨line, offered⟩⟩
    intro ended
    rw [ended] at sifted
    exact sifted line offered

/-! ## Two roles with one menu -/

namespace Service

theorem runs_iterate_advance {allowed : Service → Prop} {around : Service → Service → Prop}
    (service : Service) (moves : Nat)
    (free : ∀ count < moves, allowed (advance^[count] service)) :
    Runs allowed around service (advance^[moves] service) := by
  induction moves with
  | zero => exact .refl
  | succ moves ih =>
      rw [Function.iterate_succ_apply']
      exact (ih fun count less => free count (Nat.lt_succ_of_lt less)).trans
        (runs_advance _ (free moves (Nat.lt_succ_self moves)))

end Service

instance (fails : String → Prop) [DecidablePred fails] (service : Service) :
    Decidable (service.FailsFor fails) :=
  inferInstanceAs (Decidable (∀ job ∈ service.jobs, job.gather.isDone = true →
    (fails job.roleId ↔ job.gather.hasFailed = true)))

def twoRolesStore : Store where
  roles := (Table.empty.insert "s" { id := "s" }).insert "r" { id := "r" }
  menus := Table.empty.insert "m" { id := "m" }
  links := (Table.empty.insert "s" ["m"]).insert "r" ["m"]
  resources := Table.empty.insert "1" ⟨"1", "m", "GET", "/a"⟩

def twoRolesService (refusal : Query → Option StoreError) : Service where
  store := { memory := twoRolesStore, refusal := refusal }
  files.nodes := Table.empty.insert "/model.conf" (.file builtInModel false)
  settings.modelPath := "/model.conf"
  settings.policyPath := "/policy.csv"

def loadingTwoRoles (refusal : Query → Option StoreError) (moves : Nat) : Service :=
  Service.advance^[moves] ((twoRolesService refusal).toStage { caller := .load }
    (.gathering [⟨"r", .linked⟩, ⟨"s", .linked⟩] []))

theorem enabledRoles_twoRoles : twoRolesStore.enabledRoles = [{ id := "r" }, { id := "s" }] :=
  sortBy_of_ascending text_strictOrder Role.id (by decide)

theorem shows_loadingTwoRoles (refusal : Query → Option StoreError)
    (answers : refusal .enabledRoles = none) (fails : String → Prop) (moves : Nat)
    (free : ∀ count < moves, (loadingTwoRoles refusal count).FailsFor fails) :
    Situation.Shows ⟨twoRolesStore, fails⟩ (loadingTwoRoles refusal moves) := by
  have idle : ∀ service : Service, service.jobs = [] → service.FailsFor fails := by
    intro service none_ job member
    rw [none_] at member
    cases member
  have answered : ((twoRolesService refusal).toStage { caller := .load } .listing).store.queries =
      (Queries.ofStore twoRolesStore).refusing refusal := rfl
  have listed : ((twoRolesService refusal).begin .load).1.advance.advance =
      loadingTwoRoles refusal 0 := by
    calc ((twoRolesService refusal).begin .load).1.advance.advance
        = ((twoRolesService refusal).toStage { caller := .load } .listing).listRoles
            { caller := .load, stage := .listing } := rfl
      _ = loadingTwoRoles refusal 0 := by
          rw [listRoles, answered]
          simp only [Queries.refusing, answers, Queries.orRefuse, Queries.ofStore,
            enabledRoles_twoRoles]
          rfl
  have run : Runs (FailsFor fails) KeepsRows ((twoRolesService refusal).begin .load).1
      (loadingTwoRoles refusal 0) := by
    rw [← listed]
    exact (runs_advance _ (idle _ rfl)).trans (runs_advance _ (idle _ rfl))
  exact ⟨twoRolesService refusal, rfl, rfl,
    .head (.begun .load) (run.trans (runs_iterate_advance _ moves free))⟩

def refusingFirst (query : Query) : Option StoreError :=
  if query = .roleMenus "r" then some Queries.serverless else none

theorem exists_compiled_of_lines {service : Service} {lines : List Line}
    (there : (service.sync.pass.bind fun pass => pass.stage.compiled?.map Compiled.lines) =
      some lines) :
    ∃ pass compiled, service.sync.pass = some pass ∧ pass.stage.compiled? = some compiled ∧
      compiled.lines = lines := by
  obtain ⟨pass, running, given⟩ := Option.bind_eq_some_iff.mp there
  obtain ⟨compiled, here, same⟩ := Option.map_eq_some_iff.mp given
  exact ⟨pass, compiled, running, here, same⟩

/-- Where one of the roles fails the other has the line that it has beside both, and it comes to
be published. -/
theorem other_role_keeps_its_line :
    ∃ pass beside compiled others,
      (loadingTwoRoles refusingFirst 19).sync.pass = some pass ∧
      (loadingTwoRoles (fun _ => none) 25).sync.pass = some beside ∧
      pass.stage.compiled? = some compiled ∧ beside.stage.compiled? = some others ∧
      others.lines = [⟨"r", "/a", "GET"⟩, ⟨"s", "/a", "GET"⟩] ∧
      (compiled.lines.filter fun line => line.subject ≠ "r") =
        others.lines.filter (fun line => line.subject ≠ "r") ∧
      ArrivesAmid (FailsFor fun roleId => roleId = "r") KeepsRows
        (Publishes ⟨twoRolesStore, fun roleId => roleId = "r"⟩ pass)
        (loadingTwoRoles refusingFirst 19) := by
  have shows := shows_loadingTwoRoles refusingFirst (by decide) (fun roleId => roleId = "r") 19
    (by decide +kernel)
  have showsBeside := shows_loadingTwoRoles (fun _ => none) rfl (fun _ => False) 25
    (by decide +kernel)
  have agree : Situation.AgreeBut "r" ⟨twoRolesStore, fun roleId => roleId = "r"⟩
      ⟨twoRolesStore, fun _ => False⟩ := by
    refine ⟨fun _ => rfl, fun _ => Iff.rfl, fun _ _ => Iff.rfl, fun _ _ => rfl, ?_⟩
    intro id apart
    exact iff_false_intro apart
  obtain ⟨pass, compiled, running, given, lines⟩ :
      ∃ pass compiled, (loadingTwoRoles refusingFirst 19).sync.pass = some pass ∧
        pass.stage.compiled? = some compiled ∧ compiled.lines = [⟨"s", "/a", "GET"⟩] :=
    exists_compiled_of_lines (by decide +kernel)
  obtain ⟨beside, others, runningBeside, givenBeside, linesBeside⟩ :
      ∃ pass compiled, (loadingTwoRoles (fun _ => none) 25).sync.pass = some pass ∧
        pass.stage.compiled? = some compiled ∧
          compiled.lines = [⟨"r", "/a", "GET"⟩, ⟨"s", "/a", "GET"⟩] :=
    exists_compiled_of_lines (by decide +kernel)
  have working : pass.stage.isWorking = true := by
    rw [← isAt_eq running Stage.isWorking]
    decide +kernel
  obtain ⟨compiles, comes⟩ := other_roles_keep_their_lines "r" _ _ agree _ _ shows showsBeside
    pass beside running runningBeside
  obtain ⟨offers, _, same⟩ := compiles compiled given
  have offered : ∃ line, Situation.Offers ⟨twoRolesStore, fun roleId => roleId = "r"⟩ line :=
    ⟨_, (offers ⟨"s", "/a", "GET"⟩).mp (by rw [lines]; exact List.mem_singleton_self _)⟩
  exact ⟨pass, beside, compiled, others, running, runningBeside, given, givenBeside, linesBeside,
    same others givenBeside, (comes offered).2 working⟩

end RoleGrants
