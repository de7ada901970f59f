import RoleGrants.Proofs.Signal.Advancing
import RoleGrants.Proofs.Sync.Settling

/-! # The record over a run

While a pass holds its place no other pass records a marker.  So the tick that found its
marker beyond the recorded one finds it there still when it records it, and a reload records
the newer of the two.  A load records what it has read, whatever was recorded before: it is
the only call that can take the record back (`record_falls_only_behind_a_load`), and it does
so where the marker under the key has become smaller (`loads_can_lower_the_record`). -/

set_option autoImplicit false

namespace RoleGrants

theorem Signal.isWhole_of_interpret {value : Option String} {marker : Marker}
    (known : interpret value = .ok (some marker)) : Marker.IsWhole marker := by
  have meant := current_interpret value
  rw [known] at meant
  obtain ⟨text, _, read⟩ := Option.bind_eq_some_iff.mp (Except.ok.inj meant).symm
  exact Marker.isWhole_of_ofText? read

theorem Service.isWhole_of_heard {service : Service} {marker : Marker}
    (known : service.heard = .ok (some marker)) : Marker.IsWhole marker := by
  rw [heard, Signal.read_eq] at known
  split at known
  · cases known
  · exact Signal.isWhole_of_interpret known

structure Sync.Awaits (sync : Sync) (pass : Pass) : Prop where
  bounded : ∀ marker, pass.signal = some marker → Marker.least ≤ marker
  ahead : pass.caller = .tick → pass.stage.isUnderWay = true →
    ∃ marker, pass.signal = some marker ∧ sync.covers marker = false

structure Sync.IsOrdered (sync : Sync) : Prop where
  bounded : Marker.least ≤ sync.lastApplied
  running : ∀ pass, sync.pass = some pass → sync.Awaits pass

namespace Sync

variable {sync other : Sync} {pass : Pass} {marker : Marker}

theorem lastApplied_le_of_uncovered (above : Marker.least ≤ marker)
    (uncovered : sync.covers marker = false) : sync.lastApplied ≤ marker := by
  by_cases unapplied : sync.lastApplied = Marker.least
  · exact unapplied ▸ above
  · have recorded : sync.applied = some sync.lastApplied := if_neg unapplied
    refine Int.not_lt.mp fun behind => ?_
    have covered := (sync.covers_iff marker).mpr ⟨_, recorded, Int.le_of_lt behind⟩
    exact absurd (covered.symm.trans uncovered) nofun

theorem Awaits.entered (sync : Sync) (caller : Caller) : sync.Awaits { caller := caller } where
  bounded _ known := by cases known
  ahead _ under := by cases under

theorem Awaits.onward (awaits : sync.Awaits pass) {stage : Stage}
    (under : stage.isUnderWay = true → pass.stage.isUnderWay = true) :
    sync.Awaits { pass with stage := stage } where
  bounded := awaits.bounded
  ahead tick going := awaits.ahead tick (under going)

theorem IsOrdered.resumed (ordered : sync.IsOrdered) (same : other.lastApplied = sync.lastApplied)
    (rest : other.pass = some pass) (awaits : sync.Awaits pass) : other.IsOrdered where
  bounded := same ▸ ordered.bounded
  running _ running := by
    cases rest.symm.trans running
    refine ⟨awaits.bounded, fun tick under => ?_⟩
    obtain ⟨marker, known, uncovered⟩ := awaits.ahead tick under
    exact ⟨marker, known, (covers_eq same marker).trans uncovered⟩

theorem IsOrdered.freed (ordered : sync.IsOrdered) (same : other.lastApplied = sync.lastApplied)
    (free : other.pass = none) : other.IsOrdered where
  bounded := same ▸ ordered.bounded
  running _ running := absurd (free.symm.trans running) nofun

end Sync

namespace Service

variable {service after : Service} {pass next : Pass} {move : Move}

theorem le_lastApplied_record_swapped (awaits : service.sync.Awaits pass)
    {generation : Generation} (here : pass.stage = .finished (.ok (.swapped generation)))
    (onward : pass.caller = .load → ∀ marker, pass.signal = some marker →
      service.sync.lastApplied ≤ marker) :
    service.sync.lastApplied ≤
      (service.record pass (.ok (.swapped generation))).sync.lastApplied := by
  rw [lastApplied_record_swapped, markerAfter]
  cases caller : pass.caller with
  | load =>
      cases known : pass.signal with
      | none => exact Int.le_refl _
      | some marker => exact onward caller marker known
  | tick =>
      obtain ⟨marker, known, uncovered⟩ := awaits.ahead caller (by rw [here]; rfl)
      rw [known]
      exact Sync.lastApplied_le_of_uncovered (awaits.bounded marker known) uncovered
  | reload =>
      simp only [Sync.applied]
      split
      next unapplied =>
        rw [unapplied]
        cases known : pass.signal with
        | none => exact Int.le_of_eq unapplied.symm
        | some marker => exact awaits.bounded marker known
      · cases pass.signal with
        | none => exact Int.le_refl _
        | some marker => exact Int.le_max_left _ marker

theorem bounded_record (ordered : service.sync.IsOrdered) (awaits : service.sync.Awaits pass)
    (result : Except PolicyError PassOutcome) :
    Marker.least ≤ (service.record pass result).sync.lastApplied := by
  by_cases swaps : ∃ generation, result = .ok (.swapped generation)
  · obtain ⟨generation, rfl⟩ := swaps
    rw [lastApplied_record_swapped]
    cases after : markerAfter service.sync pass with
    | none => exact ordered.bounded
    | some marker =>
        rcases markerAfter_cases after with old | own
        · rw [Sync.applied] at old
          split at old
          · cases old
          · exact Option.some.inj old ▸ ordered.bounded
        · exact awaits.bounded marker own
  · have unswapped : ∀ generation, result ≠ .ok (.swapped generation) :=
      fun generation same => swaps ⟨generation, same⟩
    rw [lastApplied_record unswapped]
    exact ordered.bounded

theorem Read.awaits (awaits : service.sync.Awaits pass) (read : service.Read pass next) :
    service.sync.Awaits next := by
  cases read with
  | informed signal known newer =>
      refine ⟨?_, fun tick _ => newer tick⟩
      rintro marker rfl
      exact (isWhole_of_heard known).1
  | uninformed caller => exact ⟨awaits.bounded, fun tick => absurd tick caller⟩
  | unchanged marker known covered => exact awaits.onward nofun
  | idle => exact awaits.onward nofun
  | unavailable => exact awaits.onward nofun

theorem Moved.lastApplied_cases (running : service.sync.pass = some pass)
    (moved : service.Moved pass move after) :
    after.sync.lastApplied = service.sync.lastApplied ∨
      ∃ generation, pass.stage = .finished (.ok (.swapped generation)) ∧
        after = service.record pass (.ok (.swapped generation)) := by
  cases moved.turn running with
  | reading next here read same => exact .inl (by rw [same]; rfl)
  | going stage under plain asked sync handle key => exact .inl (by rw [sync])
  | installing compiled engine generation here sync current counted key =>
      exact .inl (by rw [sync])
  | recording result here same =>
      subst same
      by_cases swaps : ∃ generation, result = .ok (.swapped generation)
      · obtain ⟨generation, rfl⟩ := swaps
        exact .inr ⟨generation, here, rfl⟩
      · exact .inl (lastApplied_record fun generation same => swaps ⟨generation, same⟩)

theorem Moved.isOrdered (ordered : service.sync.IsOrdered)
    (running : service.sync.pass = some pass) (moved : service.Moved pass move after) :
    after.sync.IsOrdered := by
  have awaits := ordered.running pass running
  cases moved.turn running with
  | reading next here read same =>
      subst same
      exact ordered.resumed rfl rfl (read.awaits awaits)
  | going stage under plain asked sync handle key =>
      rw [sync]
      exact ordered.resumed rfl rfl (awaits.onward fun _ => under)
  | installing compiled engine generation here sync current counted key =>
      rw [sync]
      exact ordered.resumed rfl rfl (awaits.onward fun _ => by rw [here]; rfl)
  | recording result here same =>
      subst same
      refine ⟨bounded_record ordered awaits result, ?_⟩
      rintro other ⟨⟩
      exact ⟨awaits.bounded, nofun⟩

end Service

namespace Journal

variable {journal next last : Journal}

/-- The step is the record of a load that has swapped and has read a marker behind the one that
is recorded. -/
def FallsBack (journal next : Journal) : Prop :=
  ∃ pass marker generation, journal.service.sync.pass = some pass ∧ pass.caller = .load ∧
    pass.stage = .finished (.ok (.swapped generation)) ∧ pass.signal = some marker ∧
    marker < journal.service.sync.lastApplied ∧
    next = journal.moved (journal.service.record pass (.ok (.swapped generation)))

theorem Entry.isOrdered (ordered : journal.service.sync.IsOrdered) (entry : journal.Entry next) :
    next.service.sync.IsOrdered := by
  cases entry with
  | entered caller free => exact ordered.resumed rfl rfl (.entered _ caller)
  | refused after answer handle sync told => exact sync ▸ ordered
  | aside after handle sync => exact sync ▸ ordered
  | moved pass move after running moved => exact moved.isOrdered ordered running
  | handed pass stage running handed =>
      exact ordered.resumed rfl rfl ((ordered.running pass running).onward fun _ => handed.going.1)
  | closed pass answer running here => exact ordered.freed rfl rfl
  | abandoned pass running waiting => exact ordered.freed rfl rfl

theorem Entry.lastApplied_cases (entry : journal.Entry next) :
    next.service.sync.lastApplied = journal.service.sync.lastApplied ∨
      ∃ pass generation, journal.service.sync.pass = some pass ∧
        pass.stage = .finished (.ok (.swapped generation)) ∧
        next = journal.moved (journal.service.record pass (.ok (.swapped generation))) := by
  cases entry with
  | refused after answer handle sync told => exact .inl (by rw [sync])
  | aside after handle sync => exact .inl (by rw [sync])
  | moved pass move after running moved =>
      rcases moved.lastApplied_cases running with same | ⟨generation, here, rfl⟩
      · exact .inl same
      · exact .inr ⟨pass, generation, running, here, rfl⟩
  | _ => exact .inl rfl

/-- The record goes back with no other step. -/
theorem Entry.lastApplied_lt_iff (ordered : journal.service.sync.IsOrdered)
    (entry : journal.Entry next) :
    next.service.sync.lastApplied < journal.service.sync.lastApplied ↔
      journal.FallsBack next := by
  constructor
  · intro less
    rcases entry.lastApplied_cases with same | ⟨pass, generation, running, here, rfl⟩
    · exact absurd (same ▸ less) (Int.lt_irrefl _)
    · by_contra stays
      refine Int.not_lt.mpr (Service.le_lastApplied_record_swapped
        (ordered.running pass running) here ?_) less
      intro load marker known
      refine Int.not_lt.mp fun behind => stays ?_
      exact ⟨pass, marker, generation, running, load, here, known, behind, rfl⟩
  · rintro ⟨pass, marker, generation, running, load, here, known, behind, rfl⟩
    rw [Journal.moved, Service.lastApplied_record_swapped, Service.markerAfter, load, known]
    exact behind

theorem isOrdered_of_steps {service : Service} (unbegun : service.sync = {})
    (run : (start service).Steps journal) : journal.service.sync.IsOrdered := by
  induction run with
  | refl =>
      refine ⟨?_, ?_⟩
      · exact unbegun ▸ Int.le_refl _
      · intro pass running
        exact absurd (unbegun ▸ running) nofun
  | tail _ step ih => exact Entry.isOrdered ih step.entry

end Journal

/-- However calls run beside each other and beside changes to all that is around them, the record
goes back with the record of a load that has read a smaller marker, and with nothing else.  A run
without such a load never goes back from a marker to a smaller one or to none. -/
theorem record_falls_only_behind_a_load (service : Service) (unbegun : service.sync = {})
    (journal : Journal) (run : (Journal.start service).Steps journal) :
    (∀ next, journal.Step next →
        (next.service.sync.lastApplied < journal.service.sync.lastApplied ↔
          journal.FallsBack next)) ∧
      ∀ last, Relation.ReflTransGen
          (fun before after : Journal => before.Step after ∧ ¬ before.FallsBack after) journal last →
        ∀ recorded, journal.service.sync.applied = some recorded →
          ∃ later, last.service.sync.applied = some later ∧ recorded ≤ later := by
  have ordered := Journal.isOrdered_of_steps unbegun run
  refine ⟨fun next step => step.entry.lastApplied_lt_iff ordered, ?_⟩
  intro last onward recorded before
  have kept : last.service.sync.IsOrdered ∧
      journal.service.sync.lastApplied ≤ last.service.sync.lastApplied := by
    induction onward with
    | refl => exact ⟨ordered, Int.le_refl _⟩
    | tail _ step ih =>
        obtain ⟨before, least⟩ := ih
        have stays := (step.1.entry.lastApplied_lt_iff before).not.mpr step.2
        exact ⟨step.1.entry.isOrdered before, Int.le_trans least (Int.not_lt.mp stays)⟩
  rw [Sync.applied] at before
  split at before
  · cases before
  next applied =>
    cases before
    refine ⟨last.service.sync.lastApplied, if_neg ?_, kept.2⟩
    intro unapplied
    exact applied (Int.le_antisymm (unapplied ▸ kept.2) ordered.bounded)

def loweredOneGrantJournal : Journal :=
  let loaded :=
    (Journal.advanceFor 32 ((Journal.start (signalledService "9")).begun .load)).concluded
  loaded.beside (loaded.service.scribbled "5")

def recordingOneGrantJournal (caller : Caller) : Journal :=
  Journal.advanceFor 31 (loweredOneGrantJournal.begun caller)

theorem steps_recordingOneGrantJournal (caller : Caller) :
    (Journal.start (signalledService "9")).Steps (recordingOneGrantJournal caller) := by
  have loaded : (Journal.start (signalledService "9")).Steps
      (Journal.advanceFor 32 ((Journal.start (signalledService "9")).begun .load)).concluded :=
    (Relation.ReflTransGen.head (.begun .load) (Journal.steps_advanceFor 32 _)).tail .concluded
  have lowered : (Journal.start (signalledService "9")).Steps loweredOneGrantJournal :=
    loaded.tail (.beside _ (.elsewhere _ rfl rfl))
  exact (lowered.tail (.begun caller)).trans (Journal.steps_advanceFor 31 _)

/-- The reload keeps the greater marker, and the load falls back to the smaller one. -/
theorem load_lowers_what_a_reload_keeps :
    loweredOneGrantJournal.service.sync.applied = some 9 ∧
      (recordingOneGrantJournal .load).FallsBack (recordingOneGrantJournal .load).advance ∧
      (recordingOneGrantJournal .load).advance.service.sync.applied = some 5 ∧
      ∃ later, (recordingOneGrantJournal .reload).advance.service.sync.applied = some later ∧
        9 ≤ later := by
  have known : loweredOneGrantJournal.service.sync.applied = some 9 ∧
      (recordingOneGrantJournal .load).service.sync.lastApplied = 9 ∧
      (recordingOneGrantJournal .load).advance.service.sync.lastApplied = 5 ∧
      (recordingOneGrantJournal .reload).service.sync.lastApplied = 9 ∧
      (recordingOneGrantJournal .reload).service.sync.applied = some 9 ∧
      (recordingOneGrantJournal .reload).advance.service.sync.lastApplied = 9 ∧
      (recordingOneGrantJournal .reload).service.isAt Service.isEnded = false ∧
      (recordingOneGrantJournal .reload).advance.service.isAt Service.isEnded = true := by
    decide +kernel
  obtain ⟨recorded, before, after, held, kept, stays, going, ended⟩ := known
  have load := record_falls_only_behind_a_load _ rfl _ (steps_recordingOneGrantJournal .load)
  have reload := record_falls_only_behind_a_load _ rfl _ (steps_recordingOneGrantJournal .reload)
  have loads : (recordingOneGrantJournal .load).Step (recordingOneGrantJournal .load).advance := by
    refine (Journal.advance_cases _).resolve_left fun same => ?_
    rw [same, before] at after
    cases after
  have reloads :
      (recordingOneGrantJournal .reload).Step (recordingOneGrantJournal .reload).advance := by
    refine (Journal.advance_cases _).resolve_left fun same => ?_
    rw [same, going] at ended
    cases ended
  have upheld : ¬ (recordingOneGrantJournal .reload).FallsBack
      (recordingOneGrantJournal .reload).advance := by
    rw [← reload.1 _ reloads, held, stays]
    exact Int.lt_irrefl 9
  refine ⟨recorded, ?_, ?_, reload.2 _ (.single ⟨reloads, upheld⟩) 9 kept⟩
  · rw [← load.1 _ loads, before, after]
    decide
  · rw [Sync.applied, after]
    rfl

/-- A second load records the smaller marker that it finds. -/
theorem loads_can_lower_the_record :
    (signalledService "9").load.1.sync.applied = some 9 ∧
      ((signalledService "9").load.1.scribbled "5").heard = .ok (some 5) ∧
      ((signalledService "9").load.1.scribbled "5").load.1.sync.applied = some 5 := by
  decide +kernel

end RoleGrants
