import RoleGrants.Proofs.Sync.Building
import RoleGrants.Proofs.Sync.Entries

/-! # Passes happen whole or not at all

Whatever fails on its way, a pass changes the generations and the recorded marker only
where it installs an engine that has passed the check, and from there on nothing fails.
`Underway` says what holds of the running pass at each of its stages, `Sound` what holds of
the journal of all calls; every step keeps both (`Sound.entry`). -/

set_option autoImplicit false

namespace RoleGrants

def Account.HandedOver (account : Account) (compiled : Compiled) : Prop :=
  account.compiled = some compiled ∧ compiled.lines ≠ []

def Account.Knows (account : Account) (signal : Option Marker) : Stage → Prop
  | .entered => signal = none
  | .publishing compiled _ => signal = account.read ∧ account.HandedOver compiled
  | .building compiled => signal = account.read ∧ account.HandedOver compiled
  | .installing compiled engine => signal = account.read ∧ account.HandedOver compiled ∧
      (compiled.lines.map Line.rule).Perm engine.rules
  | .ended _ => True
  | _ => signal = account.read

namespace Account

variable {account : Account} {service after : Service} {pass : Pass} {move : Move}

/-! ## What an account is told -/

theorem told_before (account : Account) (service : Service) :
    (account.told service).before = account.before := by
  rw [told]
  split <;> rfl

theorem told_entered (running : service.sync.pass = some pass) (here : pass.stage = .entered) :
    account.told service = { account with read := service.heard.toOption.join } := by
  rw [told, running, Option.map_some, here]

theorem told_compiling {pool : Pool} (running : service.sync.pass = some pass)
    (here : pass.stage = .compiling pool) :
    account.told service = { account with compiled := pool.outcome.bind Except.toOption } := by
  rw [told, running, Option.map_some, here]

theorem told_read (running : service.sync.pass = some pass) {stage : Stage}
    (here : pass.stage = stage) (begun : stage ≠ .entered) :
    (account.told service).read = account.read := by
  rw [told, running, Option.map_some, here]
  split
  next same => exact absurd (Option.some.inj same) begun
  · rfl
  · rfl

theorem told_eq (running : service.sync.pass = some pass) {stage : Stage}
    (here : pass.stage = stage) (begun : stage ≠ .entered)
    (worked : ∀ pool, stage ≠ .compiling pool) : account.told service = account := by
  rw [told, running, Option.map_some, here]
  split
  next same => exact absurd (Option.some.inj same) begun
  next pool same => exact absurd (Option.some.inj same) (worked pool)
  · rfl

theorem knows_moved (running : service.sync.pass = some pass)
    (knows : account.Knows pass.signal pass.stage) (moved : service.Moved pass move after) :
    ∃ next, after.sync.pass = some next ∧
      (account.told service).Knows next.signal next.stage := by
  have kept {stage : Stage} (here : pass.stage = stage) (begun : stage ≠ .entered)
      (same : pass.signal = account.read) : pass.signal = (account.told service).read :=
    same.trans (told_read running here begun).symm
  cases moved with
  | informed signal here known newer =>
      refine ⟨_, rfl, ?_⟩
      rw [told_entered running here, known]
      rfl
  | uninformed error here unknown caller =>
      refine ⟨_, rfl, ?_⟩
      rw [here] at knows
      rw [told_entered running here, unknown]
      exact knows
  | idle here known caller => exact ⟨_, rfl, trivial⟩
  | unchanged marker here known caller covered => exact ⟨_, rfl, trivial⟩
  | unavailable error here unknown caller => exact ⟨_, rfl, trivial⟩
  | tooDeep here deep => exact ⟨_, rfl, trivial⟩
  | recorded result here => exact ⟨_, rfl, trivial⟩
  | received pool compiled here outcome some_ =>
      rw [here] at knows
      refine ⟨_, rfl, kept here nofun knows, ?_⟩
      rw [told_compiling running here, outcome]
      refine ⟨rfl, ?_⟩
      intro empty
      rw [Compiled.isEmpty, empty] at some_
      cases some_
  | publishing compiled publish here =>
      rw [here] at knows
      rw [told_eq running here nofun nofun]
      exact ⟨_, rfl, knows⟩
  | published compiled publish here done =>
      rw [here] at knows
      rw [told_eq running here nofun nofun]
      exact ⟨_, rfl, knows⟩
  | unpublished compiled publish error here failed =>
      rw [here] at knows
      exact ⟨_, rfl, kept here nofun knows.1⟩
  | unbuilt compiled error here failed =>
      rw [here] at knows
      exact ⟨_, rfl, kept here nofun knows.1⟩
  | mismatched compiled engine error here made unequal =>
      rw [here] at knows
      exact ⟨_, rfl, kept here nofun knows.1⟩
  | built compiled engine here made equal =>
      rw [here] at knows
      rw [told_eq running here nofun nofun]
      exact ⟨_, rfl, knows.1, knows.2, rules_perm_of_verifyRules equal⟩
  | installed compiled engine here =>
      rw [here] at knows
      exact ⟨_, rfl, kept here nofun knows.1⟩
  | _ =>
      -- Before the policy is handed over only the marker is agreed on, and it stays.
      rw [‹pass.stage = _›] at knows
      refine ⟨_, rfl, kept ‹pass.stage = _› ?_ knows⟩
      nofun

end Account

/-! ## Moves and the footing -/

namespace Service

theorem Moved.footing {service after : Service} {pass : Pass} {move : Move}
    (moved : Moved service pass move after) :
    (pass.stage.generation? = none ∧ after.footing = service.footing ∧
        ∃ next, after.sync.pass = some next ∧ next.stage.generation? = none) ∨
      (∃ compiled engine, pass.stage = .installing compiled engine ∧
        after.footing =
          ⟨(service.installation pass compiled engine).1, service.sync.lastApplied⟩ ∧
        after.sync.pass = some { pass with
          stage := .finished (.ok (.swapped (service.installation pass compiled engine).2)) }) ∨
      ∃ result, pass.stage = .finished result ∧ after = service.record pass result := by
  obtain ⟨handle, sync⟩ := service.footing_buildEngine
  have unbuilding : service.buildEngine.1.footing = service.footing := by
    rw [Service.footing, handle, sync]
    rfl
  cases moved with
  | installed compiled engine here => exact .inr (.inl ⟨compiled, engine, here, rfl, rfl⟩)
  | recorded result here => exact .inr (.inr ⟨result, here, rfl⟩)
  | unbuilt compiled error here failed =>
      exact .inl ⟨by rw [here]; rfl, unbuilding, _, rfl, rfl⟩
  | mismatched compiled engine error here made unequal =>
      exact .inl ⟨by rw [here]; rfl, unbuilding, _, rfl, rfl⟩
  | built compiled engine here made equal =>
      exact .inl ⟨by rw [here]; rfl, unbuilding, _, rfl, rfl⟩
  | _ => exact .inl ⟨by rw [‹pass.stage = _›]; rfl, rfl, _, rfl, rfl⟩

theorem generation?_answerOf (pass : Pass) (result : Except PolicyError PassOutcome) :
    (answerOf pass result).generation? = (Stage.finished result).generation? := by
  obtain ⟨caller, signal, stage⟩ := pass
  rcases result with error | ⟨generation⟩ | _ <;> cases caller <;> rfl

theorem le_lastApplied_record {service : Service} {pass : Pass} {marker : Marker}
    (known : pass.signal = some marker) (generation : Generation) :
    marker ≤ (service.record pass (.ok (.swapped generation))).sync.lastApplied := by
  rw [lastApplied_record_swapped, markerAfter, known]
  split
  · cases service.sync.applied with
    | none => exact Int.le_refl marker
    | some applied => exact Int.le_max_right applied marker
  · exact Int.le_refl marker

end Service

theorem Account.installs_installation {account : Account} {service : Service} {pass : Pass}
    {compiled : Compiled} {engine : Engine} (found : service.footing = account.before)
    (knows : account.Knows pass.signal (.installing compiled engine)) :
    account.Installs (service.installation pass compiled engine).1
      (service.installation pass compiled engine).2 := by
  obtain ⟨signal, ⟨handed, nonempty⟩, same⟩ := knows
  have counted : account.before.handle.installed = service.handle.installed := by
    rw [← found]
    rfl
  have lines : compiled.lines.length = engine.rules.length := by
    rw [← same.length_eq, List.length_map]
  refine ⟨?_, ?_, signal, lines, List.length_pos_of_ne_nil nonempty, compiled, handed, same⟩
  · rw [counted]
    rfl
  · rw [counted]
    rfl

namespace Journal

open FinishedCall

structure Underway (journal : Journal) (pass : Pass) : Prop where
  counted : journal.account.before.handle.installed = successes journal.calls
  backed : journal.account.before.IsBacked
  knows : journal.account.Knows pass.signal pass.stage
  kept : pass.stage.generation? = none → journal.service.footing = journal.account.before
  installs : ∀ generation, pass.stage.generation? = some generation →
    journal.account.Installs journal.service.handle generation
  recorded : (∃ answer, pass.stage = .ended answer) → journal.service.footing.IsBacked

structure Sound (journal : Journal) : Prop where
  calls : ∀ later call earlier, journal.calls = later ++ call :: earlier → call.Follows earlier
  idle : journal.service.sync.pass = none →
    journal.service.handle.installed = successes journal.calls ∧ journal.service.footing.IsBacked
  underway : ∀ pass, journal.service.sync.pass = some pass → journal.Underway pass

variable {journal : Journal} {service after : Service} {pass next : Pass} {account : Account}
  {move : Move}

/-! ## The running pass -/

theorem Underway.onward (underway : journal.Underway pass) (silent : pass.stage.generation? = none)
    (before : account.before = journal.account.before)
    (footing : after.footing = journal.service.footing)
    (unswapped : next.stage.generation? = none) (knows : account.Knows next.signal next.stage) :
    Underway { journal with service := after, account := account } next where
  counted := by rw [before]; exact underway.counted
  backed := by rw [before]; exact underway.backed
  knows := knows
  kept _ := footing.trans ((underway.kept silent).trans before.symm)
  installs generation swapped := by
    rw [unswapped] at swapped
    cases swapped
  recorded _ := by
    rw [footing, underway.kept silent]
    exact underway.backed

theorem Underway.installed (underway : journal.Underway pass) {compiled : Compiled}
    {engine : Engine} (here : pass.stage = .installing compiled engine)
    (handle : after.handle = (journal.service.installation pass compiled engine).1)
    (swapped : next.stage =
      .finished (.ok (.swapped (journal.service.installation pass compiled engine).2)))
    (knows : journal.account.Knows next.signal next.stage) :
    Underway { journal with service := after } next where
  counted := underway.counted
  backed := underway.backed
  knows := knows
  kept unswapped := by
    rw [swapped] at unswapped
    cases unswapped
  installs generation own := by
    rw [swapped] at own
    cases own
    have agreed := underway.knows
    rw [here] at agreed
    rw [handle]
    exact Account.installs_installation (underway.kept (by rw [here]; rfl)) agreed
  recorded ended := by
    obtain ⟨answer, same⟩ := ended
    rw [swapped] at same
    cases same

theorem Underway.ended (underway : journal.Underway pass)
    {result : Except PolicyError PassOutcome} (here : pass.stage = .finished result) :
    Underway { journal with service := journal.service.record pass result }
      { pass with stage := .ended (Service.answerOf pass result) } := by
  have answered := Service.generation?_answerOf pass result
  cases swap : (Stage.finished result).generation? with
  | none =>
      have footing : (journal.service.record pass result).footing = journal.service.footing := by
        rcases result with error | ⟨generation⟩ | _
        · rfl
        · cases swap
        · rfl
      exact underway.onward (by rw [here]; exact swap) rfl footing (answered.trans swap) trivial
  | some generation =>
      have swapped : result = .ok (.swapped generation) := by
        rcases result with error | ⟨generation⟩ | _
        · cases swap
        · cases swap
          rfl
        · cases swap
      subst swapped
      have installs := underway.installs generation (by rw [here]; rfl)
      have signal := underway.knows
      rw [here] at signal
      refine ⟨underway.counted, underway.backed, trivial, ?_, ?_, ?_⟩
      · intro unswapped
        exact absurd (unswapped.symm.trans (answered.trans swap)) nofun
      · intro other own
        cases (own.symm.trans (answered.trans swap))
        exact installs
      · intro _ live marker current known _
        have own : live = generation := by
          have handle : journal.service.handle.current = some live := current
          rw [installs.live] at handle
          cases handle
          rfl
        subst own
        exact Service.le_lastApplied_record (signal.trans (installs.signal.symm.trans known)) live

theorem Underway.moved (running : journal.service.sync.pass = some pass)
    (underway : journal.Underway pass) (moved : journal.service.Moved pass move after) :
    ∃ next, after.sync.pass = some next ∧ (journal.moved after).Underway next := by
  obtain ⟨next, rest, knows⟩ := Account.knows_moved running underway.knows moved
  refine ⟨next, rest, ?_⟩
  rcases moved.footing with ⟨silent, footing, other, same, unswapped⟩ |
      ⟨compiled, engine, here, footing, arrived⟩ | ⟨result, here, rfl⟩
  · rw [rest] at same
    cases same
    exact underway.onward silent (Account.told_before _ _) footing unswapped knows
  · rw [Account.told_eq running here nofun nofun] at knows
    rw [Journal.moved, Account.told_eq running here nofun nofun]
    rw [rest] at arrived
    cases arrived
    exact underway.installed here (congrArg Footing.handle footing) rfl knows
  · rw [Journal.moved, Account.told_eq running here nofun nofun]
    cases rest
    exact underway.ended here

/-! ## Calls that are over -/

theorem follows_cons {call : FinishedCall} {calls : List FinishedCall}
    (follows : call.Follows calls)
    (sound : ∀ later other earlier, calls = later ++ other :: earlier → other.Follows earlier) :
    ∀ later other earlier, call :: calls = later ++ other :: earlier → other.Follows earlier := by
  intro later other earlier same
  cases later with
  | nil =>
      cases same
      exact follows
  | cons first later =>
      cases same
      exact sound later other earlier rfl

theorem successes_cons_of_none {call : FinishedCall} (unswapped : call.generation? = none)
    (calls : List FinishedCall) : successes (call :: calls) = successes calls := by
  rw [successes, List.countP_cons, unswapped]
  rfl

theorem successes_cons_of_some {call : FinishedCall} {generation : Generation}
    (swapped : call.generation? = some generation) (calls : List FinishedCall) :
    successes (call :: calls) = successes calls + 1 := by
  rw [successes, List.countP_cons, swapped]
  rfl

theorem Sound.closed (sound : journal.Sound) (running : journal.service.sync.pass = some pass)
    {answer : Option CallAnswer} (told : answer.bind CallAnswer.generation? = pass.stage.generation?)
    (done : pass.stage.generation? = none ∨ ∃ answer, pass.stage = .ended answer) :
    (journal.closed journal.service.giveUp answer).Sound := by
  have underway := sound.underway pass running
  have footing : journal.service.giveUp.footing = journal.service.footing := rfl
  let call : FinishedCall := ⟨journal.account, journal.service.giveUp.footing, answer⟩
  have told : call.generation? = pass.stage.generation? := told
  have follows : call.Follows journal.calls := by
    refine ⟨fun unswapped => underway.kept (told.symm.trans unswapped), ?_⟩
    intro generation swapped
    have installs := underway.installs generation (told.symm.trans swapped)
    exact ⟨installs, installs.id.trans (congrArg (· + 1) underway.counted)⟩
  refine ⟨follows_cons follows sound.calls, ?_, fun other ran => by cases ran⟩
  intro _
  cases swap : pass.stage.generation? with
  | none =>
      have kept := underway.kept swap
      refine ⟨?_, ?_⟩
      · refine Eq.trans ?_ (successes_cons_of_none (told.trans swap) journal.calls).symm
        rw [← underway.counted, ← kept]
        rfl
      · rw [Journal.closed, footing, kept]
        exact underway.backed
  | some generation =>
      have installs := underway.installs generation swap
      refine ⟨?_, ?_⟩
      · refine Eq.trans ?_ (successes_cons_of_some (told.trans swap) journal.calls).symm
        rw [← underway.counted]
        exact congrArg Handle.installed installs.live
      · rcases done with silent | ended
        · rw [swap] at silent
          cases silent
        · exact underway.recorded ended

/-! ## Steps -/

theorem Underway.of_footing (underway : journal.Underway pass)
    (footing : after.footing = journal.service.footing) :
    Underway { journal with service := after } pass where
  counted := underway.counted
  backed := underway.backed
  knows := underway.knows
  kept silent := footing.trans (underway.kept silent)
  installs generation swapped := by
    have handle : after.handle = journal.service.handle := congrArg Footing.handle footing
    rw [handle]
    exact underway.installs generation swapped
  recorded ended := by
    rw [footing]
    exact underway.recorded ended

/-- Around the calls nothing changes that a journal tells of. -/
theorem Sound.of_footing (sound : journal.Sound) (handle : after.handle = journal.service.handle)
    (sync : after.sync = journal.service.sync) : Sound { journal with service := after } := by
  have footing := Service.footing_eq handle sync
  refine ⟨sound.calls, ?_, ?_⟩
  · intro idle
    have known := sound.idle (sync ▸ idle)
    rw [footing, handle]
    exact known
  · intro pass running
    exact (sound.underway pass (sync ▸ running)).of_footing footing

theorem Sound.passed (sound : journal.Sound) {call : FinishedCall}
    (unswapped : call.generation? = none) (same : call.after = call.account.before) :
    Sound { journal with calls := call :: journal.calls } := by
  have counted := successes_cons_of_none unswapped journal.calls
  have follows : call.Follows journal.calls :=
    ⟨fun _ => same, fun generation swapped => by
      rw [unswapped] at swapped
      cases swapped⟩
  refine ⟨follows_cons follows sound.calls, ?_, ?_⟩
  · intro idle
    rw [counted]
    exact sound.idle idle
  · intro pass running
    have underway := sound.underway pass running
    exact { underway with counted := underway.counted.trans counted.symm }

theorem Sound.entered (sound : journal.Sound) (caller : Caller)
    (free : journal.service.sync.pass = none) :
    Sound { journal with
      service := journal.service.enter caller
      account := { before := journal.service.footing } } := by
  obtain ⟨counted, backed⟩ := sound.idle free
  refine ⟨sound.calls, ?_, ?_⟩
  · intro idle
    cases idle
  · intro pass entered
    cases entered
    refine ⟨counted, backed, rfl, fun _ => rfl, ?_, ?_⟩
    · intro generation swapped
      cases swapped
    · rintro ⟨answer, ended⟩
      cases ended

theorem Sound.moved (sound : journal.Sound) (running : journal.service.sync.pass = some pass)
    (moved : journal.service.Moved pass move after) : (journal.moved after).Sound := by
  obtain ⟨next, rest, underway⟩ := (sound.underway pass running).moved running moved
  refine ⟨sound.calls, ?_, ?_⟩
  · intro idle
    exact absurd (rest.symm.trans idle) nofun
  · intro other ran
    cases (rest.symm.trans ran)
    exact underway

theorem Sound.redirected (sound : journal.Sound) (running : journal.service.sync.pass = some pass)
    (silent : pass.stage.generation? = none) {stage : Stage} (unswapped : stage.generation? = none)
    (knows : journal.account.Knows pass.signal stage) :
    Sound { journal with service := journal.service.toStage pass stage } := by
  refine ⟨sound.calls, nofun, ?_⟩
  intro next arrived
  cases arrived
  exact (sound.underway pass running).onward silent rfl rfl unswapped knows

theorem Sound.handed (sound : journal.Sound) (running : journal.service.sync.pass = some pass)
    {stage : Stage} (handed : pass.stage.Handed stage) :
    Sound { journal with service := journal.service.toStage pass stage } := by
  have knows := (sound.underway pass running).knows
  generalize here : pass.stage = old at handed knows
  cases handed with
  | worked pool next formatter event stepped =>
      exact sound.redirected running (by rw [here]; rfl) rfl knows
  | unsupplied compiled error =>
      exact sound.redirected running (by rw [here]; rfl) rfl knows.1
  | supplied compiled engine checked =>
      exact sound.redirected running (by rw [here]; rfl) rfl
        ⟨knows.1, knows.2, rules_perm_of_verifyRules checked⟩

theorem generation?_of_isWaiting {stage : Stage} (waiting : stage.isWaiting = true) :
    stage.generation? = none := by
  cases stage with
  | finished result => cases waiting
  | ended answer => cases waiting
  | _ => rfl

theorem Sound.entry {next : Journal} (sound : journal.Sound) (entry : journal.Entry next) :
    next.Sound := by
  cases entry with
  | entered caller free => exact sound.entered caller free
  | refused after answer handle sync told =>
      have footing := Service.footing_eq handle sync
      exact (sound.of_footing handle sync).passed (by rcases told with rfl | rfl <;> rfl) footing
  | aside after handle sync => exact sound.of_footing handle sync
  | moved pass move after running moved => exact sound.moved running moved
  | handed pass stage running handed => exact sound.handed running handed
  | closed pass answer running here =>
      exact sound.closed running (by rw [here]; rfl) (.inr ⟨answer, here⟩)
  | abandoned pass running waiting =>
      have silent := generation?_of_isWaiting waiting
      exact sound.closed running silent.symm (.inl silent)

theorem Sound.steps {last : Journal} (sound : journal.Sound) (run : journal.Steps last) :
    last.Sound := by
  induction run with
  | refl => exact sound
  | tail _ step ih => exact ih.entry step.entry

theorem sound_start (unloaded : service.handle = {}) (unbegun : service.sync = {}) :
    (start service).Sound := by
  refine ⟨?_, ?_, ?_⟩
  · intro later call earlier same
    cases later <;> cases same
  · intro _
    refine ⟨congrArg Handle.installed unloaded, ?_⟩
    intro generation marker current
    have live : service.handle.current = some generation := current
    rw [unloaded] at live
    cases live
  · intro pass running
    have ran : service.sync.pass = some pass := running
    rw [unbegun] at ran
    cases ran

end Journal

open FinishedCall in
/-- Whatever fails on the way of any number of calls: a call whose answer has no generation
leaves the generations and the recorded marker as they were, a call whose answer has one has
installed just this one, under the next id, with the marker that it read and the rules of the
lines that were compiled for it; and while no pass is running, the marker of the live
generation or a later one is recorded. -/
theorem calls_are_whole_or_nothing (service : Service) (unloaded : service.handle = {})
    (unbegun : service.sync = {}) (journal : Journal) (run : (Journal.start service).Steps journal) :
    (∀ call ∈ journal.calls, call.generation? = none → call.after = call.account.before) ∧
      (∀ later call earlier generation, journal.calls = later ++ call :: earlier →
        call.generation? = some generation →
          call.account.Installs call.after.handle generation ∧
            generation.id = successes earlier + 1) ∧
      (journal.service.sync.pass = none →
        journal.service.handle.installed = successes journal.calls ∧
          ∀ generation marker, journal.service.handle.current = some generation →
            generation.signal = some marker → Marker.least < marker →
              ∃ applied, journal.service.sync.applied = some applied ∧ marker ≤ applied) := by
  have sound := (Journal.sound_start unloaded unbegun).steps run
  refine ⟨?_, ?_, ?_⟩
  · intro call member unswapped
    obtain ⟨later, earlier, same⟩ := List.append_of_mem member
    exact (sound.calls later call earlier same).unchanged unswapped
  · intro later call earlier generation same swapped
    exact (sound.calls later call earlier same).changed generation swapped
  · intro idle
    obtain ⟨counted, backed⟩ := sound.idle idle
    refine ⟨counted, ?_⟩
    intro generation marker current known above
    have recorded : marker ≤ journal.service.sync.lastApplied :=
      backed generation marker current known above
    have applied : journal.service.sync.lastApplied ≠ Marker.least :=
      (Int.lt_of_lt_of_le above recorded).ne'
    exact ⟨journal.service.sync.lastApplied, if_neg applied, recorded⟩

def buildingOneGrantJournal : Journal :=
  Journal.advanceFor 29 ((Journal.start (oneGrantService "/a")).begun .load)

def loadedOneGrantJournal : Journal :=
  (Journal.advanceFor 3 (buildingOneGrantJournal.beside
    (buildingOneGrantJournal.service.supply (.ofGrants [["r", "/a", "GET"]] [])))).concluded

def reloadingOneGrantJournal : Journal :=
  ((loadedOneGrantJournal.begun .reload).begun .reload).advance

def abandonedOneGrantJournal : Journal :=
  reloadingOneGrantJournal.beside reloadingOneGrantJournal.service.giveUp

/-- The load is the only call of the three that has changed anything. -/
theorem refused_and_abandoned_calls_change_nothing :
    abandonedOneGrantJournal.calls.map (fun call => call.generation?.map Generation.id) =
        [none, none, some 1] ∧
      (∀ call ∈ abandonedOneGrantJournal.calls, call.generation? = none →
        call.after = call.account.before) ∧
      abandonedOneGrantJournal.service.handle.installed = 1 := by
  have ran : buildingOneGrantJournal.service.isAt Service.isBuilding = true ∧
      reloadingOneGrantJournal.service.isAt Stage.isWaiting = true ∧
      abandonedOneGrantJournal.calls.map
        (fun call => call.generation?.map Generation.id) = [none, none, some 1] ∧
      FinishedCall.successes abandonedOneGrantJournal.calls = 1 ∧
      abandonedOneGrantJournal.service.sync.pass.isNone = true := by decide +kernel
  obtain ⟨building, waiting, answers, successes, idle⟩ := ran
  obtain ⟨pass, running, waits⟩ := Service.exists_pass_of_isAt waiting
  have loading : (Journal.start (oneGrantService "/a")).Steps buildingOneGrantJournal :=
    .head (.begun .load) (Journal.steps_advanceFor 29 _)
  have loaded : (Journal.start (oneGrantService "/a")).Steps loadedOneGrantJournal :=
    ((loading.tail (.beside _ (Service.beside_supply building _ trivial))).trans
      (Journal.steps_advanceFor 3 _)).tail .concluded
  have reloading : (Journal.start (oneGrantService "/a")).Steps reloadingOneGrantJournal :=
    ((loaded.tail (.begun .reload)).tail (.begun .reload)).trans (Journal.steps_advanceFor 1 _)
  obtain ⟨unchanged, _, resting⟩ := calls_are_whole_or_nothing (oneGrantService "/a") rfl rfl
    abandonedOneGrantJournal (reloading.tail (.beside _ (.givenUp pass running waits)))
  exact ⟨answers, unchanged, (resting (Option.isNone_iff_eq_none.mp idle)).1.trans successes⟩

end RoleGrants
