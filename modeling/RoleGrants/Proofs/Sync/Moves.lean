import RoleGrants.Sync.Pass

/-! # What a move does

`Moved` lists the moves of a pass with all that each of them does (`moved_of_move?`):
later proofs go through this list and never open `move?` again.  No move touches the
store, the settings, the signal, the authorizer or what the workshop was set up with
(`Moved.keeps`). -/

set_option autoImplicit false

namespace RoleGrants

def Gather.isDone : Gather → Bool
  | .done _ => true
  | _ => false

theorem Sync.covers_iff (sync : Sync) (marker : Marker) :
    sync.covers marker = true ↔ ∃ applied, sync.applied = some applied ∧ marker ≤ applied := by
  rw [covers]
  cases sync.applied with
  | none => simp
  | some applied => simp

namespace Job

variable {jobs : List Job} {index : Nat} {roleId : String}

theorem exists_of_set {job next : Job} (found : jobs[index]? = some job)
    (own : next.roleId = job.roleId) (present : ∃ other ∈ jobs, other.roleId = roleId) :
    ∃ other ∈ jobs.set index next, other.roleId = roleId := by
  obtain ⟨inRange, here⟩ := List.getElem?_eq_some_iff.mp found
  have same : (jobs.set index next).map Job.roleId = jobs.map Job.roleId := by
    have inMap : index < (jobs.map Job.roleId).length := by simpa using inRange
    have there : (jobs.map Job.roleId)[index] = next.roleId := by simp [here, own]
    rw [List.map_set, ← there, List.set_getElem_self]
  rw [← List.mem_map] at present ⊢
  rwa [same]

theorem exists_of_eraseIdx {job : Job} (found : jobs[index]? = some job)
    (present : ∃ other ∈ jobs, other.roleId = roleId) :
    job.roleId = roleId ∨ ∃ other ∈ jobs.eraseIdx index, other.roleId = roleId := by
  obtain ⟨other, member, same⟩ := present
  obtain ⟨place, there⟩ := List.mem_iff_getElem?.mp member
  by_cases here : place = index
  · rw [here, found] at there
    cases there
    exact .inl same
  · exact .inr ⟨other, List.mem_eraseIdx_iff_getElem?.mpr ⟨place, here, there⟩, same⟩

end Job

namespace Service

def heard (service : Service) : Except SignalError (Option Marker) :=
  (service.signal.read service.cache service.clock.instant).2

def afterReading (service : Service) : Service :=
  { service with cache := (service.signal.read service.cache service.clock.instant).1 }

def counting (service : Service) (metrics : Metrics) : Service :=
  { service with metrics := metrics }

def installation (service : Service) (pass : Pass) (compiled : Compiled) (engine : Engine) :
    Handle × Generation :=
  service.handle.install engine pass.signal compiled.lines.length service.clock.wall

inductive Moved (service : Service) (pass : Pass) : Move → Service → Prop
  | informed (signal : Option Marker) (here : pass.stage = .entered)
      (known : service.heard = .ok signal)
      (newer : pass.caller = .tick →
        ∃ marker, signal = some marker ∧ service.sync.covers marker = false) :
      Moved service pass .onward
        (service.afterReading.toStage { pass with signal := signal } .listing)
  | uninformed (error : SignalError) (here : pass.stage = .entered)
      (unknown : service.heard = .error error) (caller : pass.caller ≠ .tick) :
      Moved service pass .onward (service.afterReading.toStage pass .listing)
  | idle (here : pass.stage = .entered) (known : service.heard = .ok none)
      (caller : pass.caller = .tick) :
      Moved service pass .onward (service.afterReading.toStage pass (.ended (.tick .idle)))
  | unchanged (marker : Marker) (here : pass.stage = .entered)
      (known : service.heard = .ok (some marker)) (caller : pass.caller = .tick)
      (covered : service.sync.covers marker = true) :
      Moved service pass .onward (service.afterReading.toStage pass (.ended (.tick .unchanged)))
  | unavailable (error : SignalError) (here : pass.stage = .entered)
      (unknown : service.heard = .error error) (caller : pass.caller = .tick) :
      Moved service pass .onward
        (service.afterReading.toStage pass (.ended (.tick .signalUnavailable)))
  | unlisted (error : StoreError) (here : pass.stage = .listing)
      (refused : service.store.queries.enabledRoles = .error error) :
      Moved service pass .onward (service.toStage pass (.finished (.error (.store error))))
  | tooDeep (here : pass.stage = .listing) (deep : service.settings.size.isTooDeep = true) :
      Moved service pass .onward (service.toStage pass (.ended .aborted))
  | listed (roles : List Role) (here : pass.stage = .listing)
      (answered : service.store.queries.enabledRoles = .ok roles)
      (fits : service.settings.size.isTooDeep = false) :
      Moved service pass .onward
        (service.toStage pass (.gathering (roles.map fun role => ⟨role.id, .linked⟩) []))
  | asked (jobs : List Job) (holdings : List Holding) (index : Nat) (job : Job)
      (here : pass.stage = .gathering jobs holdings) (found : jobs[index]? = some job)
      (undone : job.gather.isDone = false) :
      Moved service pass (.gather index) (service.toStage pass (.gathering
        (jobs.set index { job with gather := job.gather.advance service.store.queries job.roleId })
        holdings))
  | held (jobs : List Job) (holdings : List Holding) (index : Nat) (roleId : String)
      (resources : List Resource) (here : pass.stage = .gathering jobs holdings)
      (found : jobs[index]? = some ⟨roleId, .done (.ok resources)⟩) :
      Moved service pass (.gather index) (service.toStage pass
        (.gathering (jobs.eraseIdx index) (holdings ++ [⟨roleId, resources⟩])))
  | lost (jobs : List Job) (holdings : List Holding) (index : Nat) (roleId : String)
      (error : StoreError) (here : pass.stage = .gathering jobs holdings)
      (found : jobs[index]? = some ⟨roleId, .done (.error error)⟩) :
      Moved service pass (.gather index)
        ((service.counting service.metrics.aggregationFailed).toStage pass
          (.gathering (jobs.eraseIdx index) holdings))
  | gathered (holdings : List Holding) (here : pass.stage = .gathering [] holdings) :
      Moved service pass .onward
        (service.toStage pass (.compiling (Pool.start service.settings.size holdings)))
  | compiled (pool next : Pool) (event : Pool.Event) (here : pass.stage = .compiling pool)
      (stepped : pool.step? Formatter.plain event = some next) :
      Moved service pass (.compile event) (service.toStage pass (.compiling next))
  | uncompiled (pool : Pool) (text : String) (here : pass.stage = .compiling pool)
      (outcome : pool.outcome = some (.error text)) :
      Moved service pass .onward (service.toStage pass (.finished (.error (.worker text))))
  | empty (pool : Pool) (compiled : Compiled) (here : pass.stage = .compiling pool)
      (outcome : pool.outcome = some (.ok compiled)) (none_ : compiled.isEmpty = true) :
      Moved service pass .onward
        ((service.counting (service.metrics.linesRejected compiled.rejected)).toStage pass
          (.finished (.ok .empty)))
  | received (pool : Pool) (compiled : Compiled) (here : pass.stage = .compiling pool)
      (outcome : pool.outcome = some (.ok compiled)) (some_ : compiled.isEmpty = false) :
      Moved service pass .onward
        ((service.counting (service.metrics.linesRejected compiled.rejected)).toStage pass
          (.publishing compiled { path := service.settings.policyPath, text := compiled.render }))
  | publishing (compiled : Compiled) (publish : Publish)
      (here : pass.stage = .publishing compiled publish)
      (going : ∀ answer, publish.stage ≠ .ended answer) :
      Moved service pass .onward
        (({ service with files := (publish.advance service.files).1 } : Service).toStage pass
          (.publishing compiled (publish.advance service.files).2))
  | published (compiled : Compiled) (publish : Publish)
      (here : pass.stage = .publishing compiled publish) (done : publish.stage = .ended (.ok ())) :
      Moved service pass .onward (service.toStage pass (.building compiled))
  | unpublished (compiled : Compiled) (publish : Publish) (error : PolicyError)
      (here : pass.stage = .publishing compiled publish)
      (failed : publish.stage = .ended (.error error)) :
      Moved service pass .onward (service.toStage pass (.finished (.error error)))
  | unbuilt (compiled : Compiled) (error : PolicyError) (here : pass.stage = .building compiled)
      (failed : service.buildEngine.2 = .error error) :
      Moved service pass .onward
        (service.buildEngine.1.toStage pass (.finished (.error error)))
  | mismatched (compiled : Compiled) (engine : Engine) (error : PolicyError)
      (here : pass.stage = .building compiled) (made : service.buildEngine.2 = .ok engine)
      (unequal : verifyRules compiled engine = .error error) :
      Moved service pass .onward
        (service.buildEngine.1.toStage pass (.finished (.error error)))
  | built (compiled : Compiled) (engine : Engine) (here : pass.stage = .building compiled)
      (made : service.buildEngine.2 = .ok engine) (equal : verifyRules compiled engine = .ok ()) :
      Moved service pass .onward
        (service.buildEngine.1.toStage pass (.installing compiled engine))
  | installed (compiled : Compiled) (engine : Engine)
      (here : pass.stage = .installing compiled engine) :
      Moved service pass .onward
        (({ service.readWall.1 with
            handle := (service.installation pass compiled engine).1
            metrics := service.metrics.installed compiled.lines.length
              (service.installation pass compiled engine).2.id } : Service).toStage pass
          (.finished (.ok (.swapped (service.installation pass compiled engine).2))))
  | recorded (result : Except PolicyError PassOutcome) (here : pass.stage = .finished result) :
      Moved service pass .onward (service.record pass result)

/-! ## Every move is one of these -/

theorem moved_of_read (service : Service) (pass : Pass) (here : pass.stage = .entered) :
    Moved service pass .onward (service.readForPass pass) := by
  have reading : service.readSignal = (service.afterReading, service.heard) := rfl
  rw [readForPass]
  split
  next caller =>
    rw [readForTick, reading]
    cases known : service.heard with
    | error error => exact .unavailable error here known caller
    | ok signal =>
        cases signal with
        | none => exact .idle here known caller
        | some marker =>
            simp only
            split
            next covered => exact .unchanged marker here known caller covered
            next uncovered =>
              have newer : service.sync.covers marker = false := Bool.eq_false_iff.mpr uncovered
              exact .informed (some marker) here known fun _ => ⟨marker, rfl, newer⟩
  next caller =>
    rw [readInAnyCase, reading]
    cases known : service.heard with
    | error error => exact .uninformed error here known caller
    | ok signal => exact .informed signal here known fun tick => absurd tick caller

theorem moved_of_listRoles (service : Service) (pass : Pass) (here : pass.stage = .listing) :
    Moved service pass .onward (service.listRoles pass) := by
  rw [listRoles]
  split
  next error refused => exact .unlisted error here refused
  next roles answered =>
    split
    next deep => exact .tooDeep here deep
    next fits => exact .listed roles here answered (by simpa using fits)

theorem moved_of_gatherAt {service after : Service} {pass : Pass} {jobs : List Job}
    {holdings : List Holding} {index : Nat} (here : pass.stage = .gathering jobs holdings)
    (made : service.gatherAt pass jobs holdings index = some after) :
    Moved service pass (.gather index) after := by
  rw [gatherAt] at made
  split at made
  · obtain ⟨job, found, made⟩ := Option.map_eq_some_iff.mp made
    obtain ⟨roleId, gather⟩ := job
    subst made
    cases gather with
    | done answer =>
        cases answer with
        | ok resources => exact .held jobs holdings index roleId resources here found
        | error error => exact .lost jobs holdings index roleId error here found
    | linked => exact .asked jobs holdings index _ here found rfl
    | parents known wanted => exact .asked jobs holdings index _ here found rfl
    | collect known => exact .asked jobs holdings index _ here found rfl
  · cases made

theorem moved_of_receiveCompiled (service : Service) (pass : Pass) {pool : Pool}
    {answer : Except String Compiled} (here : pass.stage = .compiling pool)
    (outcome : pool.outcome = some answer) :
    Moved service pass .onward (service.receiveCompiled pass answer) := by
  cases answer with
  | error text => exact .uncompiled pool text here outcome
  | ok compiled =>
      rw [receiveCompiled]
      split
      next none_ => exact .empty pool compiled here outcome none_
      next some_ => exact .received pool compiled here outcome (by simpa using some_)

theorem moved_of_advancePublishing (service : Service) (pass : Pass) {compiled : Compiled}
    {publish : Publish} (here : pass.stage = .publishing compiled publish) :
    Moved service pass .onward (service.advancePublishing pass compiled publish) := by
  rw [advancePublishing]
  split
  next done => exact .published compiled publish here done
  next error failed => exact .unpublished compiled publish error here failed
  next unfinished undone =>
    refine .publishing compiled publish here ?_
    rintro (error | ⟨⟩) finished
    · exact undone error finished
    · exact unfinished finished

theorem moved_of_buildForPass (service : Service) (pass : Pass) {compiled : Compiled}
    (here : pass.stage = .building compiled) :
    Moved service pass .onward (service.buildForPass pass compiled) := by
  rw [buildForPass]
  split
  next after error failed =>
    have parts := congrArg Prod.fst failed
    cases parts
    exact .unbuilt compiled error here (congrArg Prod.snd failed)
  next after engine made =>
    have parts := congrArg Prod.fst made
    cases parts
    split
    next error unequal =>
      exact .mismatched compiled engine error here (congrArg Prod.snd made) unequal
    next equal => exact .built compiled engine here (congrArg Prod.snd made) equal

theorem moved_of_move? {service after : Service} {move : Move}
    (made : service.move? move = some after) :
    ∃ pass, service.sync.pass = some pass ∧ Moved service pass move after := by
  rw [move?] at made
  cases running : service.sync.pass with
  | none =>
      rw [running] at made
      cases made
  | some pass =>
      rw [running] at made
      refine ⟨pass, rfl, ?_⟩
      simp only at made
      split at made
      next here =>
        cases made
        exact moved_of_read service pass here
      next here =>
        cases made
        exact moved_of_listRoles service pass here
      next holdings here =>
        cases made
        exact .gathered holdings here
      next jobs holdings index here => exact moved_of_gatherAt here made
      next pool event here =>
        obtain ⟨next, stepped, made⟩ := Option.map_eq_some_iff.mp made
        subst made
        exact .compiled pool next event here stepped
      next pool here =>
        obtain ⟨answer, outcome, made⟩ := Option.map_eq_some_iff.mp made
        subst made
        exact moved_of_receiveCompiled service pass here outcome
      next compiled publish here =>
        cases made
        exact moved_of_advancePublishing service pass here
      next compiled here =>
        cases made
        exact moved_of_buildForPass service pass here
      next compiled engine here =>
        cases made
        exact .installed compiled engine here
      next result here =>
        cases made
        exact .recorded result here
      · cases made

/-! ## What no move touches -/

theorem exists_built_buildEngine (service : Service) :
    ∃ built, service.buildEngine.1 =
      { service with workshop := { service.workshop with built := built } } := by
  rw [buildEngine]
  split
  · exact ⟨service.workshop.built, rfl⟩
  · simp only
    split
    · exact ⟨service.workshop.built, rfl⟩
    · exact ⟨service.workshop.built + 1, rfl⟩

structure Keeps (service after : Service) : Prop where
  store : after.store = service.store
  settings : after.settings = service.settings
  signal : after.signal = service.signal
  authorizer : after.authorizer = service.authorizer
  refusal : after.workshop.refusal = service.workshop.refusal
  report : after.workshop.report = service.workshop.report

theorem Keeps.trans {first second third : Service} (front : Keeps first second)
    (back : Keeps second third) : Keeps first third where
  store := back.store.trans front.store
  settings := back.settings.trans front.settings
  signal := back.signal.trans front.signal
  authorizer := back.authorizer.trans front.authorizer
  refusal := back.refusal.trans front.refusal
  report := back.report.trans front.report

theorem Moved.keeps {service after : Service} {pass : Pass} {move : Move}
    (moved : Moved service pass move after) : service.Keeps after := by
  obtain ⟨built, same⟩ := service.exists_built_buildEngine
  cases moved with
  | unbuilt compiled error here failed =>
      rw [same]
      exact ⟨rfl, rfl, rfl, rfl, rfl, rfl⟩
  | mismatched compiled engine error here made unequal =>
      rw [same]
      exact ⟨rfl, rfl, rfl, rfl, rfl, rfl⟩
  | built compiled engine here made equal =>
      rw [same]
      exact ⟨rfl, rfl, rfl, rfl, rfl, rfl⟩
  | _ => exact ⟨rfl, rfl, rfl, rfl, rfl, rfl⟩

end Service
end RoleGrants
