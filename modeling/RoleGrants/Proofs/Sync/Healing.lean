import RoleGrants.Proofs.Signal.Advancing
import RoleGrants.Proofs.Sync.Progress

/-! # Markers that are made good

A bump overwrites a value that is no marker, and where there is none it puts the time
(`heard_of_bump`).  It compares nothing with the marker that the last pass recorded, so
the next tick brings the store into force exactly if the time is beyond that marker
(`bump_heals_unless_overtaken`). -/

set_option autoImplicit false

namespace RoleGrants

namespace Service

def IsUnmarked (service : Service) : Prop :=
  service.heard = .ok none ∨ ∃ text, service.heard = .error (.notMarker text)

theorem current_of_isUnmarked {service : Service} (unmarked : service.IsUnmarked) :
    Signal.current (service.signal.read service.cache service.clock.instant).2 = .ok none := by
  rcases unmarked with absent | ⟨text, broken⟩
  · rw [heard] at absent
    rw [absent]
    rfl
  · rw [heard] at broken
    rw [broken]
    rfl

theorem heard_of_bump {service bumped later : Service} {marker : Marker}
    (unmarked : service.IsUnmarked) (bump : service.bumpSignal = (bumped, .ok marker))
    (early : Marker.least ≤ service.clock.wall) (late : service.clock.wall ≤ Marker.greatest)
    (cache : later.cache = bumped.cache) (signal : later.signal = service.signal) :
    marker = service.clock.wall ∧ later.heard = .ok (some marker) := by
  have written : service.signal.bump service.cache service.clock.instant service.clock.wall =
      (bumped.cache, .ok marker) := by
    have same := congrArg (fun parts => (parts.1.cache, parts.2)) bump
    exact same
  rw [Signal.bump_eq (current_of_isUnmarked unmarked)] at written
  have own : marker = service.clock.wall := by
    rcases Signal.write_cases service.signal
      (service.signal.read service.cache service.clock.instant).1 service.clock.instant
      (Marker.next service.clock.wall none) with ⟨error, refused⟩ | ⟨after, done, _⟩
    · rw [refused] at written
      cases congrArg Prod.snd written
    · have same := congrArg Prod.snd (done.symm.trans written)
      exact (Except.ok.inj same).symm
  subst own
  refine ⟨rfl, ?_⟩
  rw [heard, cache, signal]
  exact Signal.read_write written early late later.clock.instant

/-- A tick that ends with a new generation, made for this marker. -/
def Reloads (marker : Marker) (service : Service) : Prop :=
  ∃ generation, service.conclude.2 = some (.tick (.reloaded generation)) ∧
    generation.signal = some marker ∧ service.handle.current = some generation

/-- A tick that ends without a pass, over this generation. -/
def StaysWith (current : Option Generation) (service : Service) : Prop :=
  service.conclude.2 = some (.tick .unchanged) ∧ service.handle.current = current

theorem arrives_of_covered {service : Service} {marker : Marker}
    (free : service.sync.pass = none) (known : service.heard = .ok (some marker))
    (covered : service.sync.covers marker = true) :
    Arrives (StaysWith service.handle.current) (service.begin .tick).1 := by
  have heard : (service.enter .tick).heard = service.heard := rfl
  rw [begin_of_free free]
  refine .onward ⟨.onward, _, rfl⟩ ?_
  intro move after made
  obtain ⟨pass, ran, moved⟩ := moved_of_move? made
  cases ran
  cases moved with
  | informed signal here other newer =>
      obtain ⟨announced, same, uncovered⟩ := newer rfl
      rw [heard, known, same] at other
      cases other
      have uncovered' : service.sync.covers marker = false := uncovered
      rw [covered] at uncovered'
      cases uncovered'
  | unchanged announced here other caller covered => exact .there ⟨rfl, rfl⟩
  | idle here other caller =>
      rw [heard, known] at other
      cases other
  | unavailable error here other caller =>
      rw [heard, known] at other
      cases other
  | uninformed error here other caller =>
      rw [heard, known] at other
      cases other
  | _ => contradiction

theorem advanceThrough_of_ended (service : Service) (pass : Pass) (answer : CallAnswer)
    (stages : Nat) :
    advanceThrough isEnded stages (service.toStage pass (.ended answer)) =
      service.toStage pass (.ended answer) := by
  induction stages with
  | zero => rfl
  | succ stages ih => exact ih

theorem conclude_ended (service : Service) (pass : Pass) (answer : CallAnswer) :
    (service.toStage pass (.ended answer)).conclude = (service.giveUp, some answer) :=
  rfl

theorem tick_of_reading {service : Service} {outcome : TickOutcome}
    (free : service.sync.pass = none)
    (read : (service.enter .tick).readForTick { caller := .tick } =
      (service.enter .tick).afterReading.toStage { caller := .tick } (.ended (.tick outcome))) :
    service.tick = ((service.enter .tick).afterReading.giveUp, some (.tick outcome)) := by
  have moved : (service.enter .tick).advance =
      (service.enter .tick).afterReading.toStage { caller := .tick } (.ended (.tick outcome)) :=
    read
  have run : advanceTo isEnded (service.enter .tick) =
      advanceThrough isEnded 8 (service.enter .tick).advance := rfl
  rw [tick, call, begin_of_free free]
  simp only [complete]
  rw [run, moved, advanceThrough_of_ended, conclude_ended]

theorem tick_of_covered {service : Service} {marker : Marker}
    (free : service.sync.pass = none) (known : service.heard = .ok (some marker))
    (covered : service.sync.covers marker = true) :
    service.tick = ((service.enter .tick).afterReading.giveUp, some (.tick .unchanged)) := by
  have reading : (service.enter .tick).readSignal =
      ((service.enter .tick).afterReading, .ok (some marker)) := congrArg (Prod.mk _) known
  have covers : (service.enter .tick).afterReading.sync.covers marker = true := covered
  refine tick_of_reading free ?_
  rw [readForTick, reading]
  simp only [covers, if_true]

end Service

open Service

/-- A bump over a missing or a broken marker writes the time.  If that is beyond the marker
recorded last, or none is recorded, then the next tick of a service in order ends in a reload for
it, also whatever other way its pass takes; else the next tick runs no pass. -/
theorem bump_heals_unless_overtaken {service bumped later : Service} {marker : Marker}
    (unmarked : service.IsUnmarked) (bump : service.bumpSignal = (bumped, .ok marker))
    (early : 0 ≤ service.clock.wall) (late : service.clock.wall < Marker.greatest)
    (cache : later.cache = bumped.cache) (signal : later.signal = bumped.signal)
    (sync : later.sync = bumped.sync) (free : later.sync.pass = none) :
    marker = service.clock.wall ∧
      ((∀ applied, service.sync.applied = some applied → applied < marker) → later.InOrder →
        (∃ generation, later.tick.2 = some (.tick (.reloaded generation)) ∧
          generation.signal = some marker ∧
          later.tick.1.handle.current = some generation) ∧
        Arrives (Reloads marker) (later.begin .tick).1) ∧
      ((∃ applied, service.sync.applied = some applied ∧ marker ≤ applied) →
        later.tick.2 = some (.tick .unchanged) ∧
        Arrives (StaysWith later.handle.current) (later.begin .tick).1) := by
  have same : bumped.signal = service.signal ∧ bumped.sync = service.sync := by
    have parts := congrArg (fun parts => (parts.1.signal, parts.1.sync)) bump
    exact ⟨(congrArg Prod.fst parts).symm, (congrArg Prod.snd parts).symm⟩
  have above : Marker.least ≤ service.clock.wall := Int.le_trans (by decide) early
  obtain ⟨own, known⟩ := heard_of_bump unmarked bump above (Int.le_of_lt late) cache
    (signal.trans same.1)
  have covers : later.sync.covers marker = true ↔
      ∃ applied, service.sync.applied = some applied ∧ marker ≤ applied := by
    rw [sync, same.2]
    exact service.sync.covers_iff marker
  -- Which way the tick goes is told by one comparison, of the new marker with the recorded one.
  refine ⟨own, ?_, ?_⟩
  · intro ahead order
    have uncovered : later.sync.covers marker = false := by
      rw [Bool.eq_false_iff, ne_eq, covers]
      rintro ⟨applied, recorded, behind⟩
      exact absurd (ahead applied recorded) (Int.not_lt.mpr behind)
    have due : later.IsDue .tick := fun _ => ⟨marker, known, uncovered⟩
    have ticks := call_of_inOrder .tick order free due
    have arrives := arrives_of_inOrder .tick order free due
    rw [informedPass, known] at arrives
    rw [known] at ticks
    exact ⟨ticks, arrives⟩
  · intro overtaken
    have covered := covers.mpr overtaken
    exact ⟨congrArg Prod.snd (tick_of_covered free known covered),
      arrives_of_covered free known covered⟩

def Service.scribbled (service : Service) (text : String) : Service :=
  { service with cache :=
      (service.cache.set service.clock.instant service.signal.scope service.signal.key text none).1 }

theorem inOrder_oneGrant : ((oneGrantService "/a").scribbled "yesterday").bumpSignal.1.InOrder := by
  have publishes : (publish (oneGrantService "/a").files "/policy.csv"
      (oneGrantService "/a").policy).2 = .ok () := ok_of_toOption (by decide +kernel)
  refine ⟨rfl, rfl, by decide +kernel, publishes, builds_of_builtIn publishes ⟨rfl, rfl, ?_⟩⟩
  exact ok_of_toOption (by decide +kernel)

/-- Before any marker is recorded a broken one is made good. -/
theorem broken_marker_heals_at_first :
    let service := (oneGrantService "/a").scribbled "yesterday"
    service.IsUnmarked ∧ service.bumpSignal.2 = .ok 0 ∧ service.sync.applied = none ∧
      Arrives (Reloads 0) (service.bumpSignal.1.begin .tick).1 ∧
      ∃ generation, service.bumpSignal.1.tick.2 = some (.tick (.reloaded generation)) := by
  intro service
  have unmarked : service.IsUnmarked := .inr ⟨"yesterday", rfl⟩
  have bump : service.bumpSignal = (service.bumpSignal.1, .ok 0) := rfl
  have unrecorded : service.sync.applied = none := rfl
  have ahead : ∀ applied, service.sync.applied = some applied → applied < 0 := by
    intro applied recorded
    rw [unrecorded] at recorded
    cases recorded
  have healed := (bump_heals_unless_overtaken unmarked bump (by decide) (by decide) rfl rfl rfl
    rfl).2.1 ahead inOrder_oneGrant
  obtain ⟨⟨generation, reloaded, _⟩, arrives⟩ := healed
  exact ⟨unmarked, rfl, unrecorded, arrives, generation, reloaded⟩

/-- A tick has applied the marker of a writer whose clock is ahead, and then the value has been
broken. -/
def overtakenService : Service :=
  let started : Service := { oneGrantService "/a" with
    files.nodes := Table.empty.insert "/model.conf"
      (.file "[policy_definition]\np = subject, object, action" false) }
  ((started.scribbled "9000000000000000000").tick.1).scribbled "yesterday"

theorem Service.keeps_tick (service : Service) : service.Keeps service.tick.1 := by
  have begun := (service.handover_begin .tick).keeps
  rw [tick, call]
  split
  next after answer same =>
    rw [same] at begun
    exact begun
  next after same =>
    rw [same] at begun
    exact begun
  next after same =>
    rw [same] at begun
    have moves : Runs (fun _ => True) (fun _ _ => False) after (after.advanceTo isEnded) :=
      runs_advanceTo (fun _ _ => trivial) after
    exact (begun.trans (moves.keeps fun _ _ change => change.elim)).trans
      (after.advanceTo isEnded).handover_conclude.keeps

theorem inOrder_overtaken : overtakenService.bumpSignal.1.InOrder := by
  have checks : (let service := overtakenService.bumpSignal.1
      service.settings.size.isTooDeep = false ∧ service.policy.isEmpty = false ∧
        (publish service.files service.settings.policyPath service.policy).2.toOption = some () ∧
        ((service.withPublished service.policy).buildEngine.2.toOption.bind fun engine =>
          (verifyRules service.policy engine).toOption) = some ()) := by decide +kernel
  obtain ⟨fits, storable, publishes, built⟩ := checks
  obtain ⟨engine, made, equal⟩ := Option.bind_eq_some_iff.mp built
  have store : overtakenService.bumpSignal.1.store = (oneGrantService "/a").store :=
    (Service.keeps_tick _).store
  have memory : overtakenService.bumpSignal.1.store =
      { memory := overtakenService.bumpSignal.1.store.memory } := by
    rw [store]
    rfl
  exact ⟨memory, fits, storable, ok_of_toOption publishes, engine, ok_of_toOption made,
    ok_of_toOption equal⟩

/-- After that a bump succeeds at a time that any clock may show, and the next tick brings
nothing into force. -/
theorem bump_behind_a_recorded_marker_heals_nothing :
    overtakenService.IsUnmarked ∧ overtakenService.sync.applied = some 9000000000000000000 ∧
      0 ≤ overtakenService.clock.wall ∧ overtakenService.clock.wall < Marker.greatest ∧
      overtakenService.bumpSignal.2 = .ok overtakenService.clock.wall ∧
      overtakenService.bumpSignal.1.InOrder ∧
      overtakenService.bumpSignal.1.tick.2 = some (.tick .unchanged) := by
  have checks : overtakenService.heard = .error (.notMarker "yesterday") ∧
      overtakenService.sync.applied = some 9000000000000000000 ∧
      0 ≤ overtakenService.clock.wall ∧ overtakenService.clock.wall < Marker.greatest ∧
      overtakenService.bumpSignal.2 = .ok overtakenService.clock.wall ∧
      overtakenService.clock.wall ≤ 9000000000000000000 ∧
      overtakenService.bumpSignal.1.sync.pass.isNone = true := by decide +kernel
  obtain ⟨broken, applied, early, late, bump, overtaken, free⟩ := checks
  have unmarked : overtakenService.IsUnmarked := .inr ⟨"yesterday", broken⟩
  refine ⟨unmarked, applied, early, late, bump, inOrder_overtaken, ?_⟩
  have above : Marker.least ≤ overtakenService.clock.wall := Int.le_trans (by decide) early
  obtain ⟨_, known⟩ := heard_of_bump unmarked (Prod.ext rfl bump) above (Int.le_of_lt late) rfl rfl
  have covered : overtakenService.bumpSignal.1.sync.covers overtakenService.clock.wall = true :=
    (overtakenService.sync.covers_iff _).mpr ⟨_, applied, overtaken⟩
  exact congrArg Prod.snd (tick_of_covered (Option.isNone_iff_eq_none.mp free) known covered)

end RoleGrants
