import RoleGrants.Proofs.Sync.Announcing

/-! # Turns of a pass

What a move does to the markers and the generations, apart from all else
(`Service.Turn`): it reads the signal, installs a generation, records a marker, or
goes on between them.  A marker is recorded after a swap only, and it is that of the
pass or the one from before (`Service.applied_record_swapped`). -/

set_option autoImplicit false

namespace RoleGrants
namespace Stage

def hasAsked : Stage → Bool
  | .gathering _ _ => true
  | .compiling _ => true
  | .publishing _ _ => true
  | .building _ => true
  | .installing _ _ => true
  | _ => false

/-- The signal has been read, and the pass has not ended. -/
def isUnderWay : Stage → Bool
  | .entered => false
  | .ended _ => false
  | _ => true

def isSilent : Stage → Bool
  | .listing => false
  | .gathering _ _ => false
  | _ => true

def isPlain : Stage → Bool
  | .entered => false
  | .finished (.ok (.swapped _)) => false
  | .ended (.tick _) => false
  | _ => true

end Stage

namespace Service

theorem query?_of_isSilent {service : Service} {pass : Pass}
    (running : service.sync.pass = some pass) (silent : pass.stage.isSilent = true) (move : Move) :
    service.query? move = none := by
  rw [query?, running]
  simp only
  split
  next here =>
    rw [here] at silent
    cases silent
  next here =>
    rw [here] at silent
    cases silent
  next => rfl

inductive Read (service : Service) (pass : Pass) : Pass → Prop
  | informed (signal : Option Marker) (known : service.heard = .ok signal)
      (newer : pass.caller = .tick →
        ∃ marker, signal = some marker ∧ service.sync.covers marker = false) :
      Read service pass { pass with signal := signal, stage := .listing }
  | uninformed (caller : pass.caller ≠ .tick) : Read service pass { pass with stage := .listing }
  | unchanged (marker : Marker) (known : service.heard = .ok (some marker))
      (covered : service.sync.covers marker = true) :
      Read service pass { pass with stage := .ended (.tick .unchanged) }
  | idle : Read service pass { pass with stage := .ended (.tick .idle) }
  | unavailable : Read service pass { pass with stage := .ended (.tick .signalUnavailable) }

inductive Turn (service : Service) (pass : Pass) (move : Move) (after : Service) : Prop
  | reading (next : Pass) (here : pass.stage = .entered) (read : Read service pass next)
      (same : after = service.afterReading.toStage next next.stage)
  | going (stage : Stage) (under : pass.stage.isUnderWay = true) (plain : stage.isPlain = true)
      (asked : stage.hasAsked = true →
        (service.query? move).isSome = true ∨ pass.stage.hasAsked = true)
      (sync : after.sync = { service.sync with pass := some { pass with stage := stage } })
      (handle : after.handle = service.handle)
      (key : after.underKey = service.underKey)
  | installing (compiled : Compiled) (engine : Engine) (generation : Generation)
      (here : pass.stage = .installing compiled engine)
      (sync : after.sync = { service.sync with
        pass := some { pass with stage := .finished (.ok (.swapped generation)) } })
      (current : after.handle.current = some generation)
      (counted : after.handle.installed = service.handle.installed + 1)
      (key : after.underKey = service.underKey)
  | recording (result : Except PolicyError PassOutcome) (here : pass.stage = .finished result)
      (same : after = service.record pass result)

theorem turn_of_toStage {service : Service} {pass : Pass} {move : Move} {old stage : Stage}
    (here : pass.stage = old) {other : Service} (under : old.isUnderWay = true)
    (plain : stage.isPlain = true)
    (asked : stage.hasAsked = true →
      (service.query? move).isSome = true ∨ old.hasAsked = true)
    (sync : other.sync = service.sync) (handle : other.handle = service.handle)
    (key : other.underKey = service.underKey) :
    Turn service pass move (other.toStage pass stage) := by
  subst here
  refine .going stage under plain asked ?_ handle key
  rw [← sync]
  rfl

theorem Moved.turn {service after : Service} {pass : Pass} {move : Move}
    (running : service.sync.pass = some pass) (moved : Moved service pass move after) :
    Turn service pass move after := by
  -- Five moves read the signal, one lists, one installs and one records; the rest go on.
  obtain ⟨built, same⟩ := service.exists_built_buildEngine
  cases moved with
  | informed signal here known newer => exact .reading _ here (.informed signal known newer) rfl
  | uninformed error here unknown caller => exact .reading _ here (.uninformed caller) rfl
  | idle here known caller => exact .reading _ here .idle rfl
  | unchanged marker here known caller covered =>
      exact .reading _ here (.unchanged marker known covered) rfl
  | unavailable error here unknown caller => exact .reading _ here .unavailable rfl
  | listed roles here answered fits =>
      have query : (service.query? .onward).isSome = true := by
        rw [query?, running]
        simp only [here]
        rfl
      exact turn_of_toStage here rfl rfl (fun _ => .inl query) rfl rfl rfl
  | unbuilt compiled error here failed =>
      rw [same]
      exact turn_of_toStage here rfl rfl (fun asked => .inr rfl) rfl rfl rfl
  | mismatched compiled engine error here made unequal =>
      rw [same]
      exact turn_of_toStage here rfl rfl (fun asked => .inr rfl) rfl rfl rfl
  | built compiled engine here made equal =>
      rw [same]
      exact turn_of_toStage here rfl rfl (fun asked => .inr rfl) rfl rfl rfl
  | installed compiled engine here => exact .installing compiled engine _ here rfl rfl rfl rfl
  | recorded result here => exact .recording result here rfl
  | unlisted error here refused =>
      refine turn_of_toStage here rfl rfl ?_ rfl rfl rfl
      intro asked
      cases asked
  | tooDeep here deep =>
      refine turn_of_toStage here rfl rfl ?_ rfl rfl rfl
      intro asked
      cases asked
  | _ => exact turn_of_toStage ‹_› rfl rfl (fun asked => .inr rfl) rfl rfl rfl

end Service

/-! ## Markers that are recorded -/

theorem Sync.applied_eq {sync other : Sync} (same : other.lastApplied = sync.lastApplied) :
    other.applied = sync.applied := by
  rw [applied, applied, same]

theorem Sync.covers_eq {sync other : Sync} (same : other.lastApplied = sync.lastApplied)
    (marker : Marker) : other.covers marker = sync.covers marker := by
  rw [covers, covers, applied_eq same]

theorem Sync.covers_of_le {sync : Sync} {first last : Marker} (before : first ≤ last)
    (covered : sync.covers last = true) : sync.covers first = true := by
  obtain ⟨applied, known, bound⟩ := (sync.covers_iff last).mp covered
  exact (sync.covers_iff first).mpr ⟨applied, known, Int.le_trans before bound⟩

theorem newerMarker_cases {applied signal : Option Marker} {marker : Marker}
    (newer : newerMarker applied signal = some marker) :
    applied = some marker ∨ signal = some marker := by
  cases applied with
  | none => exact .inr newer
  | some first =>
      cases signal with
      | none => exact .inl newer
      | some second =>
          have greater : max first second = marker := Option.some.inj newer
          rcases Int.le_total first second with behind | ahead
          · exact .inr (congrArg some ((Int.max_eq_right behind).symm.trans greater))
          · exact .inl (congrArg some ((Int.max_eq_left ahead).symm.trans greater))

namespace Service

theorem markerAfter_cases {sync : Sync} {pass : Pass} {marker : Marker}
    (after : markerAfter sync pass = some marker) :
    sync.applied = some marker ∨ pass.signal = some marker := by
  rw [markerAfter] at after
  split at after
  · exact newerMarker_cases after
  · exact .inr after

theorem lastApplied_record_swapped (service : Service) (pass : Pass) (generation : Generation) :
    (service.record pass (.ok (.swapped generation))).sync.lastApplied =
      (service.sync.setApplied (markerAfter service.sync pass)).lastApplied := rfl

/-- After a swap no marker is recorded but that of the pass or the one from before. -/
theorem applied_record_swapped {service : Service} {pass : Pass} {generation : Generation}
    {marker : Marker}
    (applied : (service.record pass (.ok (.swapped generation))).sync.applied = some marker) :
    service.sync.applied = some marker ∨ pass.signal = some marker := by
  have same : (service.record pass (.ok (.swapped generation))).sync.applied =
      (service.sync.setApplied (markerAfter service.sync pass)).applied := rfl
  rw [same] at applied
  cases after : markerAfter service.sync pass with
  | none =>
      rw [after] at applied
      exact .inl applied
  | some recorded =>
      rw [after, Sync.setApplied, Sync.applied] at applied
      split at applied
      · cases applied
      · cases applied
        exact markerAfter_cases after

theorem lastApplied_record {service : Service} {pass : Pass}
    {result : Except PolicyError PassOutcome}
    (unswapped : ∀ generation, result ≠ .ok (.swapped generation)) :
    (service.record pass result).sync.lastApplied = service.sync.lastApplied := by
  cases result with
  | error error => rfl
  | ok outcome =>
      cases outcome with
      | swapped generation => exact absurd rfl (unswapped generation)
      | empty => rfl

theorem answerOf_tick {pass : Pass} {result : Except PolicyError PassOutcome}
    {outcome : TickOutcome} (answer : answerOf pass result = .tick outcome) :
    pass.caller = .tick ∧
      ((∃ generation, result = .ok (.swapped generation) ∧ outcome = .reloaded generation) ∨
        ((∀ generation, result ≠ .ok (.swapped generation)) ∧ outcome = .failed)) := by
  obtain ⟨caller, signal, stage⟩ := pass
  cases caller with
  | load => cases answer
  | reload => cases answer
  | tick =>
      refine ⟨rfl, ?_⟩
      cases result with
      | error error =>
          cases answer
          refine .inr ⟨?_, rfl⟩
          intro generation same
          cases same
      | ok done =>
          cases done with
          | swapped generation =>
              cases answer
              exact .inl ⟨generation, rfl, rfl⟩
          | empty =>
              cases answer
              refine .inr ⟨?_, rfl⟩
              intro generation same
              cases same

end Service

end RoleGrants
