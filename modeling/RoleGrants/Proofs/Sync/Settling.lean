import RoleGrants.Proofs.Sync.Atomicity
import RoleGrants.Proofs.Sync.Healing

/-! # Ticks that settle

A tick that has reloaded has recorded the marker that it read (`Journal.Informed`).  From
there on, as long as this marker is recorded and nothing else is heard, ticks come to
nothing: one that finds a pass running is skipped, and any other ends as soon as it has
read the signal, with the generations and the record as they were (`Journal.Resting`).

The least marker stands for none: what is recorded then tells nothing, and a tick that
finds it under the key reloads each time (`ticks_need_not_settle`). -/

set_option autoImplicit false

namespace RoleGrants

/-- This marker is recorded, and it is what is under the key, as far as the cache answers. -/
structure Service.IsSettled (service : Service) (marker : Marker) : Prop where
  recorded : service.sync.applied = some marker
  heard : service.heard = .ok (some marker) ∨ ∃ cause, service.heard = .error (.cache cause)

/-- What a tick that comes to nothing has read. -/
def Account.Bears (account : Account) (marker : Marker) : TickOutcome → Prop
  | .busy => True
  | .unchanged => account.read = some marker
  | .signalUnavailable => account.read = none
  | _ => False

/-- If the call was a tick, it has changed nothing, and its answer tells why. -/
def FinishedCall.Rests (marker : Marker) (call : FinishedCall) : Prop :=
  ∀ outcome, call.answer = some (.tick outcome) →
    call.account.Bears marker outcome ∧ call.after = call.account.before

namespace Stage

theorem not_entered_of_isUnderWay {stage : Stage} (under : stage.isUnderWay = true) :
    stage ≠ .entered := by
  rintro rfl
  cases under

theorem not_told_of_isPlain {stage : Stage} (plain : stage.isPlain = true)
    (outcome : TickOutcome) : stage ≠ .ended (.tick outcome) := by
  rintro rfl
  cases plain

theorem not_entered_of_isPlain {stage : Stage} (plain : stage.isPlain = true) :
    stage ≠ .entered := by
  rintro rfl
  cases plain

end Stage

/-! ## What a tick records -/

namespace Journal

variable {journal next : Journal} {marker : Marker}

structure Informed (journal : Journal) (pass : Pass) : Prop where
  underWay : pass.caller = .tick → pass.stage.isUnderWay = true →
    ∃ marker, pass.signal = some marker ∧ journal.account.read = some marker
  reloaded : ∀ generation, pass.stage = .ended (.tick (.reloaded generation)) →
    journal.account.read = some journal.service.sync.lastApplied

theorem Informed.of_idle {pass : Pass} (idle : pass.stage.isUnderWay = false)
    (unswapped : ∀ generation, pass.stage ≠ .ended (.tick (.reloaded generation))) :
    journal.Informed pass where
  underWay _ under := by
    rw [idle] at under
    cases under
  reloaded generation ended := absurd ended (unswapped generation)

theorem Informed.going {pass : Pass} {stage : Stage} {account : Account} {after : Service}
    (informed : journal.Informed pass) (under : pass.stage.isUnderWay = true)
    (read : account.read = journal.account.read)
    (unswapped : ∀ generation, stage ≠ .ended (.tick (.reloaded generation))) :
    Informed { journal with service := after, account := account }
      { pass with stage := stage } where
  underWay tick _ := by
    rw [read]
    exact informed.underWay tick under
  reloaded generation ended := absurd ended (unswapped generation)

theorem Informed.read {pass told : Pass} {after : Service}
    (running : journal.service.sync.pass = some pass) (here : pass.stage = .entered)
    (read : journal.service.Read pass told) : (journal.moved after).Informed told := by
  have account : journal.account.told journal.service =
      { journal.account with read := journal.service.heard.toOption.join } :=
    Account.told_entered running here
  cases read with
  | informed signal known newer =>
      refine ⟨?_, by simp⟩
      intro tick _
      obtain ⟨marker, same, _⟩ := newer tick
      refine ⟨marker, same, ?_⟩
      rw [moved, account, known, same]
      rfl
  | uninformed caller => exact ⟨fun tick => absurd tick caller, by simp⟩
  | unchanged marker known covered => exact .of_idle rfl (by simp)
  | idle => exact .of_idle rfl (by simp)
  | unavailable => exact .of_idle rfl (by simp)

theorem Informed.record {pass : Pass} {result : Except PolicyError PassOutcome}
    (informed : journal.Informed pass) (running : journal.service.sync.pass = some pass)
    (here : pass.stage = .finished result) :
    (journal.moved (journal.service.record pass result)).Informed
      { pass with stage := .ended (Service.answerOf pass result) } := by
  refine ⟨?_, ?_⟩
  · intro _ under
    cases under
  · intro generation ended
    have answer : Service.answerOf pass result = .tick (.reloaded generation) :=
      Stage.ended.inj ended
    obtain ⟨tick, ⟨other, swapped, _⟩ | ⟨_, failed⟩⟩ := Service.answerOf_tick answer
    · subst swapped
      obtain ⟨marker, signal, read⟩ := informed.underWay tick (by rw [here]; rfl)
      have applied : (journal.service.record pass (.ok (.swapped other))).sync.lastApplied =
          (journal.service.sync.setApplied
            (Service.markerAfter journal.service.sync pass)).lastApplied := rfl
      rw [moved, Account.told_read running here (by simp), read, applied, Service.markerAfter, tick,
        signal]
      rfl
    · cases failed

theorem Informed.moved {pass : Pass} {move : Move} {after : Service}
    (informed : journal.Informed pass) (running : journal.service.sync.pass = some pass)
    (moved : journal.service.Moved pass move after) :
    ∃ next, after.sync.pass = some next ∧ (journal.moved after).Informed next := by
  have kept {stage : Stage} (here : pass.stage = stage) (begun : stage ≠ .entered) :
      (journal.account.told journal.service).read = journal.account.read :=
    Account.told_read running here begun
  cases moved.turn running with
  | reading next here read same =>
      subst same
      exact ⟨next, rfl, .read running here read⟩
  | going stage under plain asked sync handle key =>
      have begun := Stage.not_entered_of_isUnderWay under
      exact ⟨_, by rw [sync], informed.going under (kept rfl begun)
        fun generation => Stage.not_told_of_isPlain plain _⟩
  | installing compiled engine generation here sync current counted key =>
      refine ⟨{ pass with stage := .finished (.ok (.swapped generation)) }, by rw [sync], ?_⟩
      exact informed.going (by rw [here]; rfl) (kept here nofun) fun _ => nofun
  | recording result here same =>
      subst same
      exact ⟨_, rfl, informed.record running here⟩

theorem Informed.entry
    (informed : ∀ pass, journal.service.sync.pass = some pass → journal.Informed pass)
    (entry : journal.Entry next) :
    ∀ pass, next.service.sync.pass = some pass → next.Informed pass := by
  cases entry with
  | entered caller free =>
      intro pass entered
      cases entered
      exact .of_idle rfl nofun
  | refused after answer handle sync told =>
      intro pass running
      have known := informed pass (sync ▸ running)
      exact ⟨known.underWay, fun generation ended => sync ▸ known.reloaded generation ended⟩
  | aside after handle sync =>
      intro pass running
      have known := informed pass (sync ▸ running)
      exact ⟨known.underWay, fun generation ended => sync ▸ known.reloaded generation ended⟩
  | moved pass move after running moved =>
      obtain ⟨other, rest, known⟩ := (informed pass running).moved running moved
      intro pass ran
      cases rest.symm.trans ran
      exact known
  | handed pass stage running handed =>
      obtain ⟨under, _, plain⟩ := handed.going
      intro other ran
      cases ran
      exact (informed pass running).going under rfl fun generation =>
        Stage.not_told_of_isPlain plain _
  | closed pass answer running here =>
      intro other ran
      cases ran
  | abandoned pass running waiting =>
      intro other ran
      cases ran

theorem informed_of_steps {service : Service} (idle : service.sync.pass = none)
    (run : (start service).Steps journal) :
    ∀ pass, journal.service.sync.pass = some pass → journal.Informed pass := by
  induction run with
  | refl =>
      intro pass running
      exact absurd (running.symm.trans idle) nofun
  | tail _ step ih => exact Informed.entry ih step.entry

theorem read_of_conclude {service : Service} (idle : service.sync.pass = none)
    (run : (start service).Steps journal) {generation : Generation}
    (reloaded : journal.service.conclude.2 = some (.tick (.reloaded generation))) :
    journal.account.read = some journal.service.sync.lastApplied ∧
      journal.concluded.service = journal.service.giveUp := by
  rcases journal.service.conclude_cases with ⟨pass, answer, running, here, same⟩ | same
  · rw [same] at reloaded
    cases reloaded
    have informed := informed_of_steps idle run pass running
    refine ⟨informed.reloaded generation here, ?_⟩
    simp only [concluded, same]
    rfl
  · rw [same] at reloaded
    cases reloaded

/-! ## Ticks that come to nothing -/

structure Resting (journal : Journal) (marker : Marker) (pass : Pass) : Prop where
  entered : pass.stage = .entered → journal.service.footing = journal.account.before
  waits : pass.caller = .tick → pass.stage.isUnderWay = false
  told : ∀ outcome, pass.stage = .ended (.tick outcome) →
    journal.account.Bears marker outcome ∧ journal.service.footing = journal.account.before

structure Rests (journal : Journal) (marker : Marker) (calls : List FinishedCall) : Prop where
  running : ∀ pass, journal.service.sync.pass = some pass → journal.Resting marker pass
  since : ∃ since, journal.calls = since ++ calls ∧ ∀ call ∈ since, call.Rests marker

variable {calls : List FinishedCall} {pass : Pass} {move : Move} {after : Service}

theorem Rests.cons (rests : journal.Rests marker calls) {call : FinishedCall}
    (own : call.Rests marker)
    (running : ∀ pass, after.sync.pass = some pass →
      Resting { journal with service := after } marker pass) :
    Rests { journal with service := after, calls := call :: journal.calls } marker calls := by
  obtain ⟨since, same, all⟩ := rests.since
  refine ⟨fun pass ran => ⟨(running pass ran).entered, (running pass ran).waits,
    (running pass ran).told⟩, call :: since, ?_, ?_⟩
  · rw [same]
    rfl
  · exact List.forall_mem_cons.mpr ⟨own, all⟩

theorem Resting.aside (resting : journal.Resting marker pass)
    (handle : after.handle = journal.service.handle) (sync : after.sync = journal.service.sync) :
    Resting { journal with service := after } marker pass := by
  have footing := Service.footing_eq handle sync
  refine ⟨?_, resting.waits, ?_⟩
  · intro here
    exact footing.trans (resting.entered here)
  · intro outcome here
    obtain ⟨bears, same⟩ := resting.told outcome here
    exact ⟨bears, footing.trans same⟩

theorem Resting.going {account : Account} {stage : Stage} (caller : pass.caller ≠ .tick)
    (begun : stage ≠ .entered) (untold : ∀ outcome, stage ≠ .ended (.tick outcome)) :
    Resting { journal with service := after, account := account } marker
      { pass with stage := stage } where
  entered here := absurd here begun
  waits tick := absurd tick caller
  told outcome here := absurd here (untold outcome)

/-- Where the marker is settled, a tick ends as soon as it has read the signal. -/
theorem Resting.reading (settled : journal.service.IsSettled marker)
    (resting : journal.Resting marker pass) (running : journal.service.sync.pass = some pass)
    (here : pass.stage = .entered) (moved : journal.service.Moved pass move after) :
    ∃ next, after.sync.pass = some next ∧ (journal.moved after).Resting marker next := by
  have account : journal.account.told journal.service =
      { journal.account with read := journal.service.heard.toOption.join } :=
    Account.told_entered running here
  have footing : journal.service.afterReading.footing =
      (journal.account.told journal.service).before :=
    (resting.entered here).trans (Account.told_before _ _).symm
  -- A tick ends here, with an answer that its account bears.
  have ended : ∀ outcome, (journal.account.told journal.service).Bears marker outcome →
      (journal.moved (journal.service.afterReading.toStage pass (.ended (.tick outcome)))).Resting
        marker { pass with stage := .ended (.tick outcome) } := by
    intro outcome bears
    refine ⟨nofun, fun _ => rfl, ?_⟩
    intro other same
    cases same
    exact ⟨bears, footing⟩
  obtain ⟨caller, signal, stage⟩ := pass
  change stage = .entered at here
  subst here
  cases moved with
  | informed signal _ known newer =>
      refine ⟨_, rfl, .going ?_ nofun nofun⟩
      intro tick
      obtain ⟨other, same, uncovered⟩ := newer tick
      subst same
      rcases settled.heard with own | ⟨cause, refused⟩
      · cases own.symm.trans known
        have covered := (Sync.covers_iff _ marker).mpr ⟨marker, settled.recorded, Int.le_refl _⟩
        exact absurd (covered.symm.trans uncovered) nofun
      · cases refused.symm.trans known
  | uninformed error _ unknown caller => exact ⟨_, rfl, .going caller nofun nofun⟩
  | idle _ known caller =>
      rcases settled.heard with own | ⟨cause, refused⟩
      · cases own.symm.trans known
      · cases refused.symm.trans known
  | unchanged other _ known caller covered =>
      refine ⟨_, rfl, ended .unchanged ?_⟩
      rw [account, known]
      rcases settled.heard with own | ⟨cause, refused⟩
      · cases own.symm.trans known
        rfl
      · cases refused.symm.trans known
  | unavailable error _ unknown caller =>
      refine ⟨_, rfl, ended .signalUnavailable ?_⟩
      rw [account, unknown]
      rfl
  | _ => contradiction

theorem Resting.moved (settled : journal.service.IsSettled marker)
    (resting : journal.Resting marker pass) (running : journal.service.sync.pass = some pass)
    (moved : journal.service.Moved pass move after) :
    ∃ next, after.sync.pass = some next ∧ (journal.moved after).Resting marker next := by
  -- No tick comes as far as listing the roles, so whatever goes on from there is another call.
  have other : pass.stage.isUnderWay = true → pass.caller ≠ .tick := by
    intro under tick
    cases under.symm.trans (resting.waits tick)
  cases moved.turn running with
  | reading next here read same => exact resting.reading settled running here moved
  | going stage under plain asked sync handle key =>
      exact ⟨_, by rw [sync], .going (other under) (Stage.not_entered_of_isPlain plain)
        (Stage.not_told_of_isPlain plain)⟩
  | installing compiled engine generation here sync current counted key =>
      refine ⟨{ pass with stage := .finished (.ok (.swapped generation)) }, by rw [sync], ?_⟩
      exact .going (other (by rw [here]; rfl)) nofun nofun
  | recording result here same =>
      subst same
      refine ⟨_, rfl, .going (other (by rw [here]; rfl)) nofun ?_⟩
      intro outcome told
      exact other (by rw [here]; rfl) (Service.answerOf_tick (Stage.ended.inj told)).1

/-- As long as the marker is settled, ticks come to nothing. -/
theorem Rests.entry (settled : journal.service.IsSettled marker)
    (rests : journal.Rests marker calls) (entry : journal.Entry next) :
    next.Rests marker calls := by
  cases entry with
  | entered caller free =>
      refine ⟨?_, rests.since⟩
      intro pass entered
      cases entered
      exact ⟨fun _ => rfl, fun _ => rfl, by simp⟩
  | refused after answer handle sync told =>
      refine rests.cons ?_ fun pass ran => (rests.running pass (sync ▸ ran)).aside handle sync
      intro outcome same
      have footing := Service.footing_eq handle sync
      rcases told with rfl | rfl
      · cases same
        exact ⟨trivial, footing⟩
      · cases same
  | aside after handle sync =>
      exact ⟨fun pass ran => (rests.running pass (sync ▸ ran)).aside handle sync, rests.since⟩
  | moved pass move after running moved =>
      obtain ⟨other, rest, resting⟩ := (rests.running pass running).moved settled running moved
      refine ⟨?_, rests.since⟩
      intro pass ran
      cases rest.symm.trans ran
      exact resting
  | handed pass stage running handed =>
      obtain ⟨under, _, plain⟩ := handed.going
      refine ⟨?_, rests.since⟩
      intro other ran
      cases ran
      refine .going ?_ (Stage.not_entered_of_isPlain plain) (Stage.not_told_of_isPlain plain)
      intro tick
      cases under.symm.trans ((rests.running pass running).waits tick)
  | closed pass answer running here =>
      refine rests.cons ?_ fun _ ran => absurd ran (by simp [Service.pass_giveUp])
      intro outcome same
      cases same
      exact (rests.running pass running).told outcome here
  | abandoned pass running waiting =>
      refine rests.cons ?_ fun _ ran => absurd ran (by simp [Service.pass_giveUp])
      intro outcome same
      cases same

def SettledSteps (marker : Marker) : Journal → Journal → Prop :=
  Relation.ReflTransGen fun before after => before.service.IsSettled marker ∧ before.Step after

theorem Rests.steps {last : Journal} (idle : journal.service.sync.pass = none)
    (run : SettledSteps marker journal last) : last.Rests marker journal.calls := by
  induction run with
  | refl =>
      refine ⟨?_, [], rfl, fun _ member => absurd member List.not_mem_nil⟩
      intro pass running
      exact absurd (running.symm.trans idle) nofun
  | tail _ step ih => exact ih.entry step.1 step.2.entry

end Journal

/-! ## Ticks at one go -/

namespace Service

variable {service : Service} {marker : Marker}

/-- A tick at one go changes neither the generations nor the record: it is skipped, or it ends
with the reading of the signal. -/
structure TicksIdly (service : Service) : Prop where
  footing : service.tick.1.footing = service.footing
  busy : service.sync.pass ≠ none → service.tick.2 = some (.tick .busy)
  unchanged : service.sync.pass = none → ∀ signal, service.heard = .ok signal →
    service.tick.2 = some (.tick .unchanged)
  unavailable : service.sync.pass = none → ∀ error, service.heard = .error error →
    service.tick.2 = some (.tick .signalUnavailable)

theorem tick_of_running {pass : Pass} (running : service.sync.pass = some pass) :
    service.tick =
      (service.counting (service.metrics.ticksSkipped 1), some (.tick .busy)) := by
  simp only [tick, call, begin, running]
  rfl

theorem tick_of_unheard {error : SignalError} (free : service.sync.pass = none)
    (unknown : service.heard = .error error) :
    service.tick =
      ((service.enter .tick).afterReading.giveUp, some (.tick .signalUnavailable)) := by
  have reading : (service.enter .tick).readSignal =
      ((service.enter .tick).afterReading, .error error) := congrArg (Prod.mk _) unknown
  refine tick_of_reading free ?_
  rw [readForTick, reading]

theorem IsSettled.ticksIdly (settled : service.IsSettled marker) : service.TicksIdly := by
  have covered : service.sync.covers marker = true :=
    (Sync.covers_iff _ marker).mpr ⟨marker, settled.recorded, Int.le_refl _⟩
  cases running : service.sync.pass with
  | some pass =>
      have skipped := tick_of_running running
      exact ⟨by rw [skipped]; rfl, fun _ => by rw [skipped],
        fun free => absurd (running.symm.trans free) nofun,
        fun free => absurd (running.symm.trans free) nofun⟩
  | none =>
      rcases settled.heard with known | ⟨cause, unknown⟩
      · have ended := tick_of_covered running known covered
        exact ⟨by rw [ended]; rfl, fun taken => absurd running taken, fun _ _ _ => by rw [ended],
          fun _ _ refused => absurd (known.symm.trans refused) nofun⟩
      · have ended := tick_of_unheard running unknown
        exact ⟨by rw [ended]; rfl, fun taken => absurd running taken,
          fun _ _ known => absurd (unknown.symm.trans known) nofun, fun _ _ _ => by rw [ended]⟩

end Service

/-- A tick that has reloaded has recorded the marker that it read, unless this is the least.
From there on, as long as this marker stays recorded and nothing else is heard, whatever else
happens: no tick goes beyond the reading of the signal or changes anything, each is answered by
busy, unchanged or unavailable, and a tick at one go is answered by the first while a pass is
running, and else by the second if the cache answers and by the third if it does not. -/
theorem reloaded_ticks_settle (service : Service) (idle : service.sync.pass = none)
    (journal : Journal) (run : (Journal.start service).Steps journal) (generation : Generation)
    (reloaded : journal.service.conclude.2 = some (.tick (.reloaded generation))) :
    ∃ marker, journal.account.read = some marker ∧ (marker ≠ Marker.least →
      journal.concluded.service.sync.applied = some marker ∧
      ∀ later, Journal.SettledSteps marker journal.concluded later →
        (∀ pass, later.service.sync.pass = some pass → pass.caller = .tick →
          pass.stage.isUnderWay = false) ∧
        (∃ since, later.calls = since ++ journal.concluded.calls ∧
          ∀ call ∈ since, call.Rests marker) ∧
        (later.service.IsSettled marker → later.service.TicksIdly)) := by
  obtain ⟨read, concluded⟩ := Journal.read_of_conclude idle run reloaded
  refine ⟨_, read, ?_⟩
  intro real
  refine ⟨?_, ?_⟩
  · rw [concluded]
    exact if_neg real
  · intro later run
    have free : journal.concluded.service.sync.pass = none := by
      rw [concluded]
      rfl
    have rests := Journal.Rests.steps free run
    exact ⟨fun pass running => (rests.running pass running).waits, rests.since,
      Service.IsSettled.ticksIdly⟩

def CallAnswer.isReloaded : CallAnswer → Bool
  | .tick (.reloaded _) => true
  | _ => false

theorem exists_of_isReloaded {answer : Option CallAnswer}
    (reloaded : answer.any CallAnswer.isReloaded = true) :
    ∃ generation, answer = some (.tick (.reloaded generation)) := by
  cases answer with
  | none => cases reloaded
  | some answer =>
      cases answer with
      | tick outcome =>
          cases outcome with
          | reloaded generation => exact ⟨generation, rfl⟩
          | _ => cases reloaded
      | _ => cases reloaded

def tickingOneGrantJournal : Journal :=
  Journal.advanceFor 29 ((Journal.start ((oneGrantService "/a").scribbled "5")).begun .tick)

def reloadedOneGrantJournal : Journal :=
  Journal.advanceFor 3 (tickingOneGrantJournal.beside
    (tickingOneGrantJournal.service.supply (.ofGrants [["r", "/a", "GET"]] [])))

def skippedOneGrantJournal : Journal :=
  (reloadedOneGrantJournal.concluded.begun .load).begun .tick

/-- The tick beside the load is skipped, and one after the load has been given up finds nothing
new. -/
theorem ticks_after_a_reload_come_to_nothing :
    let after := skippedOneGrantJournal.beside skippedOneGrantJournal.service.giveUp
    reloadedOneGrantJournal.concluded.service.sync.applied = some 5 ∧
      (∃ since, after.calls = since ++ reloadedOneGrantJournal.concluded.calls ∧
        since.length = 2 ∧ ∀ call ∈ since, call.Rests 5) ∧
      after.service.tick.2 = some (.tick .unchanged) := by
  intro after
  have ran : tickingOneGrantJournal.service.isAt Service.isBuilding = true ∧
      reloadedOneGrantJournal.service.conclude.2.any CallAnswer.isReloaded = true ∧
      reloadedOneGrantJournal.account.read = some 5 ∧
      skippedOneGrantJournal.service.isAt Stage.isWaiting = true ∧
      after.service.sync.pass.isNone = true ∧
      after.calls.length = reloadedOneGrantJournal.concluded.calls.length + 2 := by decide +kernel
  obtain ⟨building, reloads, reading, waiting, free, count⟩ := ran
  obtain ⟨generation, reloaded⟩ := exists_of_isReloaded reloads
  have ticking : (Journal.start ((oneGrantService "/a").scribbled "5")).Steps
      tickingOneGrantJournal := .head (.begun .tick) (Journal.steps_advanceFor 29 _)
  have run : (Journal.start ((oneGrantService "/a").scribbled "5")).Steps
      reloadedOneGrantJournal :=
    (ticking.tail (.beside _ (Service.beside_supply building (.ofGrants [["r", "/a", "GET"]] [])
      trivial))).trans (Journal.steps_advanceFor 3 _)
  obtain ⟨marker, read, settles⟩ := reloaded_ticks_settle _ rfl _ run generation reloaded
  cases read.symm.trans reading
  obtain ⟨applied, rests⟩ := settles (by decide)
  have known : ∀ journal ∈ [reloadedOneGrantJournal.concluded,
      reloadedOneGrantJournal.concluded.begun .load, skippedOneGrantJournal, after],
      journal.service.sync.applied = some 5 ∧ journal.service.heard = .ok (some 5) := by
    decide +kernel
  have settled : ∀ journal ∈ [reloadedOneGrantJournal.concluded,
      reloadedOneGrantJournal.concluded.begun .load, skippedOneGrantJournal, after],
      journal.service.IsSettled 5 :=
    fun journal member => ⟨(known journal member).1, .inl (known journal member).2⟩
  obtain ⟨pass, running, waits⟩ := Service.exists_pass_of_isAt waiting
  have later : Journal.SettledSteps 5 reloadedOneGrantJournal.concluded after :=
    ((Relation.ReflTransGen.single ⟨settled _ (by simp), .begun .load⟩).tail
      ⟨settled _ (by simp), .begun .tick⟩).tail
        ⟨settled _ (by simp [skippedOneGrantJournal]), .beside _ (.givenUp pass running waits)⟩
  obtain ⟨_, ⟨since, same, rest⟩, idly⟩ := rests after later
  refine ⟨applied, ⟨since, same, ?_, rest⟩, ?_⟩
  · rw [same, List.length_append] at count
    omega
  · have quiet := idly (settled after (by simp))
    exact quiet.unchanged (Option.isNone_iff_eq_none.mp free) _ (known after (by simp)).2

def signalledService (text : String) : Service :=
  ({ oneGrantService "/a" with
    files.nodes := Table.empty.insert "/model.conf"
      (.file "[policy_definition]\np = subject, object, action" false) } : Service).scribbled text

def loadingOneGrant : Service :=
  (reloadedOneGrantJournal.concluded.begun .load).service

def refusingOneGrant : Service :=
  { reloadedOneGrantJournal.concluded.service with
    cache.refusal := some (.unavailable "injected outage") }

/-- The least marker is not recorded by the tick that has read it, and the next tick reloads
again.  A marker that is recorded and still under the key is no answer for a tick that finds a
load running, or a cache that refuses. -/
theorem ticks_need_not_settle :
    ((signalledService "-9223372036854775808").heard = .ok (some Marker.least) ∧
      ∃ service generation next,
        (signalledService "-9223372036854775808").tick =
          (service, some (.tick (.reloaded generation))) ∧
        service.sync.applied = none ∧ service.heard = .ok (some Marker.least) ∧
        service.tick.2 = some (.tick (.reloaded next))) ∧
      (loadingOneGrant.sync.applied = some 5 ∧
        loadingOneGrant.signal.stored loadingOneGrant.cache = some 5 ∧
        loadingOneGrant.tick.2 = some (.tick .busy)) ∧
      refusingOneGrant.sync.applied = some 5 ∧
        refusingOneGrant.signal.stored refusingOneGrant.cache = some 5 ∧
        refusingOneGrant.tick.2 = some (.tick .signalUnavailable) := by
  refine ⟨?_, ?_, ?_⟩
  · have first : (signalledService "-9223372036854775808").heard = .ok (some Marker.least) ∧
        (signalledService "-9223372036854775808").tick.2.any CallAnswer.isReloaded = true ∧
        (signalledService "-9223372036854775808").tick.1.sync.applied = none ∧
        (signalledService "-9223372036854775808").tick.1.heard = .ok (some Marker.least) := by
      decide +kernel
    have again :
        (signalledService "-9223372036854775808").tick.1.tick.2.any CallAnswer.isReloaded =
          true := by decide +kernel
    obtain ⟨heard, reloads, applied, still⟩ := first
    obtain ⟨generation, reloaded⟩ := exists_of_isReloaded reloads
    obtain ⟨next, reloadedAgain⟩ := exists_of_isReloaded again
    exact ⟨heard, _, generation, next, Prod.ext rfl reloaded, applied, still, reloadedAgain⟩
  · have known : loadingOneGrant.sync.applied = some 5 ∧
        loadingOneGrant.signal.stored loadingOneGrant.cache = some 5 ∧
        loadingOneGrant.isAt Stage.isWaiting = true := by decide +kernel
    obtain ⟨recorded, stored, waiting⟩ := known
    obtain ⟨pass, running, _⟩ := Service.exists_pass_of_isAt waiting
    exact ⟨recorded, stored, congrArg Prod.snd (Service.tick_of_running running)⟩
  · have known : refusingOneGrant.sync.applied = some 5 ∧
        refusingOneGrant.signal.stored refusingOneGrant.cache = some 5 ∧
        refusingOneGrant.sync.pass.isNone = true ∧
        refusingOneGrant.heard = .error (.cache (.unavailable "injected outage")) := by
      decide +kernel
    obtain ⟨recorded, stored, free, refused⟩ := known
    have free := Option.isNone_iff_eq_none.mp free
    exact ⟨recorded, stored, congrArg Prod.snd (Service.tick_of_unheard free refused)⟩

end RoleGrants
