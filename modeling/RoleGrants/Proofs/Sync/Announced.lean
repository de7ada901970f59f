import RoleGrants.Proofs.Sync.Turns

/-! # What recorded markers announce

A pass reads the signal before it asks the store anything, and its marker is recorded
only when its generation is live.  So whatever a recorded marker announces, the pass of
the live generation has asked the store only later (`World.Sound.reflects`). -/

set_option autoImplicit false

namespace RoleGrants

/-! ## The invariant -/

namespace World

/-- Every change that is announced up to a marker is in all of these versions. -/
def Includes (world : World) (marker : Marker) (versions : List Nat) : Prop :=
  (∃ last, world.written = some last ∧ marker ≤ last) ∧
    ∀ change ∈ world.announced, change.marker ≤ marker →
      ∀ version ∈ versions, change.version ≤ version

structure Signalled (world : World) : Prop where
  key : world.service.underKey = world.written.map Service.entryOf
  bounded : ∀ marker, world.written = some marker →
    Marker.least ≤ marker ∧ marker < Marker.greatest
  bumping : ∀ bump, world.bump = some bump →
    bump.present = world.written ∧ bump.version ≤ world.version
  announced : ∀ change ∈ world.announced,
    change.version ≤ world.version ∧ ∃ last, world.written = some last ∧ change.marker ≤ last
  heard : ∀ change ∈ world.heard, change ∈ world.announced
  asked : ∀ version ∈ world.asked, version ≤ world.version
  live : ∀ version ∈ world.live, version ≤ world.version

/-- A marker that is recorded: the pass of the live generation has asked late enough, and
so has the running one. -/
structure Applied (world : World) (marker : Marker) : Prop where
  asked : world.Includes marker world.asked
  live : world.Includes marker world.live
  current : world.service.handle.current.isSome = true
  some_ : world.live ≠ []

structure Standing (world : World) (pass : Pass) : Prop where
  fresh : pass.stage = .entered → world.asked = []
  signal : ∀ marker, pass.signal = some marker → world.Includes marker world.asked
  asked : pass.stage.hasAsked = true → world.asked ≠ []
  swapped : ∀ generation, pass.stage = .finished (.ok (.swapped generation)) →
    world.service.handle.current.isSome = true ∧ world.live = world.asked ∧ world.live ≠ []
  unchanged : pass.stage = .ended (.tick .unchanged) →
    ∀ change ∈ world.heard, world.service.sync.covers change.marker = true
  pending : (pass.caller = .tick ∧ pass.stage.isUnderWay = true) ∨
      pass.stage = .ended (.tick .failed) →
    ∃ marker, pass.signal = some marker ∧ world.service.sync.covers marker = false

structure Sound (world : World) : Prop where
  signalled : world.Signalled
  applied : ∀ marker, world.service.sync.applied = some marker → world.Applied marker
  standing : ∀ pass, world.service.sync.pass = some pass → world.Standing pass

/-! ## What keeps it -/

section

variable {world : World}

theorem Signalled.written_eq (signalled : world.Signalled) {signal : Option Marker}
    (known : world.service.heard = .ok signal) : world.written = signal := by
  obtain ⟨_, answered | ⟨error, refused⟩⟩ :=
    Service.reading_cases signalled.key signalled.bounded
  · rw [known] at answered
    cases answered
    rfl
  · rw [known] at refused
    cases refused

theorem Includes.empty {marker last : Marker} (reached : world.written = some last)
    (before : marker ≤ last) : world.Includes marker [] :=
  ⟨⟨last, reached, before⟩, fun _ _ _ _ member => absurd member List.not_mem_nil⟩

theorem Includes.asked {marker : Marker} {versions : List Nat} (signalled : world.Signalled)
    (includes : world.Includes marker versions) :
    world.Includes marker (world.version :: versions) := by
  refine ⟨includes.1, ?_⟩
  intro change member before version asked
  rcases List.mem_cons.mp asked with rfl | asked
  · exact (signalled.announced change member).1
  · exact includes.2 change member before version asked

theorem Includes.announce {marker next : Marker} {versions : List Nat} {version : Nat}
    {service : Service} {bump : Option Bump} (includes : world.Includes marker versions)
    (beyond : ∀ last, world.written = some last → last < next) :
    Includes { world with
      service := service
      bump := bump
      written := some next
      announced := ⟨next, version⟩ :: world.announced } marker versions := by
  obtain ⟨⟨last, reached, before⟩, includes⟩ := includes
  have late : marker < next := Int.lt_of_le_of_lt before (beyond last reached)
  refine ⟨⟨next, rfl, Int.le_of_lt late⟩, ?_⟩
  intro change member early
  rcases List.mem_cons.mp member with rfl | member
  · exact absurd early (Int.not_le.mpr late)
  · exact includes change member early

/-! ## Steps -/

inductive Shift (world : World) : World → Prop
  | elsewhere (after : Service) (version : Nat) (bump : Option Bump)
      (key : after.underKey = world.service.underKey)
      (handle : after.handle = world.service.handle)
      (applied : after.sync.lastApplied = world.service.sync.lastApplied)
      (pass : after.sync.pass = none ∨ after.sync.pass = world.service.sync.pass)
      (later : world.version ≤ version)
      (bumping : ∀ going, bump = some going →
        going.present = world.written ∧ going.version ≤ version) :
      Shift world { world with service := after, version := version, bump := bump }
  | entered (caller : Caller) :
      Shift world { world with service := world.service.enter caller, asked := [] }
  | moved (move : Move) (after : Service) (made : world.service.move? move = some after) :
      Shift world (world.moved move after)
  | announced (after : Service) (marker : Marker) (version : Nat)
      (key : after.underKey = some (Service.entryOf marker))
      (bounded : Marker.least ≤ marker ∧ marker < Marker.greatest)
      (beyond : ∀ last, world.written = some last → last < marker)
      (early : version ≤ world.version) (sync : after.sync = world.service.sync)
      (handle : after.handle = world.service.handle) :
      Shift world { world with
        service := after
        bump := none
        written := some marker
        announced := ⟨marker, version⟩ :: world.announced }

theorem Signalled.shift_begun (signalled : world.Signalled) (caller : Caller) :
    world.Shift (world.begun caller) := by
  rw [World.begun]
  cases running : world.service.sync.pass with
  | none => exact .entered caller
  | some pass =>
      rcases Service.begin_cases world.service caller with ⟨none_, _⟩ | ⟨metrics, same⟩
      · rw [running] at none_
        cases none_
      · simp only
        rw [same]
        exact .elsewhere _ _ _ rfl rfl rfl (.inr rfl) (Nat.le_refl _) signalled.bumping

theorem Signalled.shift_concluded (signalled : world.Signalled) :
    world.Shift world.concluded := by
  rw [World.concluded]
  rcases world.service.conclude_cases with ⟨pass, answer, running, here, same⟩ | same
  · rw [same]
    exact .elsewhere _ _ _ rfl rfl rfl (.inl rfl) (Nat.le_refl _) signalled.bumping
  · rw [same]
    exact .elsewhere _ _ _ rfl rfl rfl (.inr rfl) (Nat.le_refl _) signalled.bumping

theorem Signalled.shift_bumpBegun (signalled : world.Signalled) :
    world.Shift world.bumpBegun := by
  obtain ⟨same, answer⟩ := Service.readForBump_cases signalled.key signalled.bounded
  rw [World.bumpBegun, same]
  refine .elsewhere _ _ _ rfl rfl rfl (.inr rfl) (Nat.le_refl _) ?_
  intro going began
  rcases answer with answered | ⟨error, refused⟩
  · rw [answered] at began
    cases began
    exact ⟨rfl, Nat.le_refl _⟩
  · rw [refused] at began
    cases began

/-- No other bump has written since, so the marker is beyond all that were announced. -/
theorem Signalled.shift_bumpEnded (signalled : world.Signalled) {bump : Bump}
    (going : world.bump = some bump) (timed : Marker.least ≤ world.service.clock.wall)
    (room : Marker.next world.service.clock.wall bump.present < Marker.greatest) :
    world.Shift (world.bumpEnded bump) := by
  obtain ⟨present, early⟩ := signalled.bumping bump going
  rw [World.bumpEnded]
  rcases world.service.writeForBump_cases bump.present with
    ⟨clock, error, refused⟩ | ⟨after, wrote, key, sync, handle⟩
  · rw [refused]
    refine .elsewhere _ _ _ rfl rfl rfl (.inr rfl) (Nat.le_refl _) ?_
    intro other idle
    cases idle
  · rw [wrote]
    refine .announced after _ bump.version key ⟨?_, room⟩ ?_ early sync handle
    · refine Int.le_trans timed (Marker.le_next ?_)
      intro last reached
      rw [present] at reached
      exact (signalled.bounded last reached).2
    · intro last reached
      rw [present, reached] at room ⊢
      exact Marker.lt_next room

theorem Signalled.shift {next : World} (signalled : world.Signalled) (step : world.Step next) :
    world.Shift next := by
  cases step with
  | begun caller => exact signalled.shift_begun caller
  | moved move after made => exact .moved move after made
  | concluded => exact signalled.shift_concluded
  | dropped =>
      exact .elsewhere _ _ _ rfl rfl rfl (.inl rfl) (Nat.le_refl _) signalled.bumping
  | mutated memory =>
      refine .elsewhere _ _ _ rfl rfl rfl (.inr rfl) (Nat.le_succ _) ?_
      intro bump going
      obtain ⟨present, early⟩ := signalled.bumping bump going
      exact ⟨present, Nat.le_succ_of_le early⟩
  | bumpBegun free => exact signalled.shift_bumpBegun
  | bumpEnded bump going timed room => exact signalled.shift_bumpEnded going timed room
  | changed after apart =>
      exact .elsewhere _ _ _ apart.key apart.handle (apart.sync ▸ rfl) (.inr (apart.sync ▸ rfl))
        (Nat.le_refl _) signalled.bumping

theorem Sound.elsewhere (sound : world.Sound) {after : Service} {version : Nat}
    {bump : Option Bump} (key : after.underKey = world.service.underKey)
    (handle : after.handle = world.service.handle)
    (applied : after.sync.lastApplied = world.service.sync.lastApplied)
    (pass : after.sync.pass = none ∨ after.sync.pass = world.service.sync.pass)
    (later : world.version ≤ version)
    (bumping : ∀ going, bump = some going →
      going.present = world.written ∧ going.version ≤ version) :
    Sound { world with service := after, version := version, bump := bump } := by
  obtain ⟨signalled, marked, standing⟩ := sound
  refine ⟨?_, ?_, ?_⟩
  · refine ⟨key.trans signalled.key, signalled.bounded, bumping, ?_, signalled.heard, ?_, ?_⟩
    · intro change member
      obtain ⟨early, reached⟩ := signalled.announced change member
      exact ⟨Nat.le_trans early later, reached⟩
    · exact fun asked member => Nat.le_trans (signalled.asked asked member) later
    · exact fun asked member => Nat.le_trans (signalled.live asked member) later
  · intro marker known
    rw [Sync.applied_eq applied] at known
    obtain ⟨asked, live, current, some_⟩ := marked marker known
    exact ⟨asked, live, handle ▸ current, some_⟩
  · intro running known
    rcases pass with none_ | same
    · rw [none_] at known
      cases known
    · obtain ⟨fresh, signal, asked, swapped, unchanged, pending⟩ :=
        standing running (same ▸ known)
      refine ⟨fresh, signal, asked, ?_, ?_, ?_⟩
      · intro generation here
        obtain ⟨current, own⟩ := swapped generation here
        exact ⟨handle ▸ current, own⟩
      · intro here change member
        exact (Sync.covers_eq applied change.marker).trans (unchanged here change member)
      · intro here
        obtain ⟨marker, own, uncovered⟩ := pending here
        exact ⟨marker, own, (Sync.covers_eq applied marker).trans uncovered⟩

theorem Sound.entered (sound : world.Sound) (caller : Caller) :
    Sound { world with service := world.service.enter caller, asked := [] } := by
  obtain ⟨signalled, marked, _⟩ := sound
  refine ⟨?_, ?_, ?_⟩
  · exact ⟨signalled.key, signalled.bounded, signalled.bumping, signalled.announced,
      signalled.heard, fun _ member => absurd member List.not_mem_nil, signalled.live⟩
  · intro marker known
    obtain ⟨⟨⟨last, reached, before⟩, _⟩, live, current, some_⟩ := marked marker known
    exact ⟨Includes.empty reached before, live, current, some_⟩
  · intro pass known
    cases known
    refine ⟨fun _ => rfl, ?_, ?_, ?_, ?_, ?_⟩
    · intro marker known
      cases known
    · intro asked
      cases asked
    · intro generation here
      cases here
    · intro here
      cases here
    · rintro (⟨_, under⟩ | here)
      · cases under
      · cases here

theorem Sound.announced (sound : world.Sound) {after : Service} {marker : Marker} {version : Nat}
    (key : after.underKey = some (Service.entryOf marker))
    (bounded : Marker.least ≤ marker ∧ marker < Marker.greatest)
    (beyond : ∀ last, world.written = some last → last < marker)
    (early : version ≤ world.version) (sync : after.sync = world.service.sync)
    (handle : after.handle = world.service.handle) :
    Sound { world with
      service := after
      bump := none
      written := some marker
      announced := ⟨marker, version⟩ :: world.announced } := by
  obtain ⟨signalled, marked, standing⟩ := sound
  refine ⟨?_, ?_, ?_⟩
  · refine ⟨key, ?_, ?_, ?_, ?_, signalled.asked, signalled.live⟩
    · intro written same
      cases same
      exact bounded
    · intro other idle
      cases idle
    · intro change member
      rcases List.mem_cons.mp member with rfl | member
      · exact ⟨early, _, rfl, Int.le_refl _⟩
      · obtain ⟨early, last, reached, before⟩ := signalled.announced change member
        exact ⟨early, _, rfl, Int.le_of_lt (Int.lt_of_le_of_lt before (beyond last reached))⟩
    · exact fun change member => List.mem_cons_of_mem _ (signalled.heard change member)
  · intro recorded known
    obtain ⟨asked, live, current, some_⟩ := marked recorded (sync ▸ known)
    exact ⟨asked.announce beyond, live.announce beyond, handle ▸ current, some_⟩
  · intro pass running
    obtain ⟨fresh, signal, asked, swapped, unchanged, pending⟩ := standing pass (sync ▸ running)
    refine ⟨fresh, fun marker own => (signal marker own).announce beyond, asked, ?_, ?_, ?_⟩
    · exact fun generation here => handle ▸ swapped generation here
    · exact fun here => sync ▸ unchanged here
    · exact fun here => sync ▸ pending here

/-! ## Moves -/

section

variable {pass : Pass} {move : Move} {after : Service}

theorem isAt_isEntered_of_isUnderWay {service : Service} (running : service.sync.pass = some pass)
    (under : pass.stage.isUnderWay = true) : service.isAt isEntered = false := by
  rw [Service.isAt_eq running]
  cases here : pass.stage with
  | entered =>
      rw [here] at under
      cases under
  | _ => rfl

theorem Standing.ended {answer : CallAnswer} (here : pass.stage = .ended answer)
    (signal : ∀ marker, pass.signal = some marker → world.Includes marker world.asked)
    (unchanged : answer = .tick .unchanged →
      ∀ change ∈ world.heard, world.service.sync.covers change.marker = true)
    (failed : answer = .tick .failed →
      ∃ marker, pass.signal = some marker ∧ world.service.sync.covers marker = false) :
    world.Standing pass := by
  refine ⟨?_, signal, ?_, ?_, ?_, ?_⟩
  · intro entered
    rw [here] at entered
    cases entered
  · intro asked
    rw [here] at asked
    cases asked
  · intro generation swapped
    rw [here] at swapped
    cases swapped
  · intro same
    rw [here] at same
    cases same
    exact unchanged rfl
  · rintro (⟨_, under⟩ | same)
    · rw [here] at under
      cases under
    · rw [here] at same
      cases same
      exact failed rfl

theorem Standing.listing (here : pass.stage = .listing)
    (signal : ∀ marker, pass.signal = some marker → world.Includes marker world.asked)
    (newer : pass.caller = .tick →
      ∃ marker, pass.signal = some marker ∧ world.service.sync.covers marker = false) :
    world.Standing pass := by
  refine ⟨?_, signal, ?_, ?_, ?_, ?_⟩
  · intro entered
    rw [here] at entered
    cases entered
  · intro asked
    rw [here] at asked
    cases asked
  · intro generation swapped
    rw [here] at swapped
    cases swapped
  · intro ended
    rw [here] at ended
    cases ended
  · rintro (⟨caller, _⟩ | ended)
    · exact newer caller
    · rw [here] at ended
      cases ended

/-- The signal is read before anything is asked, so all that it announces is in time. -/
theorem Sound.reading (sound : world.Sound) {next : Pass}
    (running : world.service.sync.pass = some pass) (here : pass.stage = .entered)
    (read : world.service.Read pass next)
    (same : after = world.service.afterReading.toStage next next.stage) :
    (world.moved move after).Sound := by
  rw [(Service.reading_cases sound.signalled.key sound.signalled.bounded).1] at same
  obtain ⟨signalled, marked, standing⟩ := sound
  obtain ⟨fresh, signal, _, _, _, _⟩ := standing pass running
  have none_ := fresh here
  have entered : world.service.isAt isEntered = true := by
    rw [Service.isAt_eq running, here]
    rfl
  have silent := Service.query?_of_isSilent running (by rw [here]; rfl) move
  have idle : ¬ world.service.handle.installed < after.handle.installed := by
    rw [same]
    exact Nat.lt_irrefl _
  rw [World.moved, if_pos entered, if_neg (Option.not_isSome_iff_eq_none.mpr silent), if_neg idle,
    same]
  refine ⟨?_, ?_, ?_⟩
  · exact ⟨signalled.key, signalled.bounded, signalled.bumping, signalled.announced,
      fun _ member => member, signalled.asked, signalled.live⟩
  · intro marker known
    obtain ⟨asked, live, current, some_⟩ := marked marker known
    exact ⟨asked, live, current, some_⟩
  · intro now known
    cases known
    cases read with
    | informed signal known newer =>
        refine Standing.listing rfl ?_ newer
        intro marker own
        rw [none_]
        exact Includes.empty ((signalled.written_eq known).trans own) (Int.le_refl marker)
    | uninformed caller => exact Standing.listing rfl signal fun tick => absurd tick caller
    | unchanged marker known covered =>
        refine Standing.ended rfl signal ?_ ?_
        · intro _ change member
          obtain ⟨_, last, reached, before⟩ := signalled.announced change member
          rw [signalled.written_eq known] at reached
          cases reached
          exact Sync.covers_of_le before covered
        · intro failed
          cases failed
    | idle =>
        refine Standing.ended rfl signal ?_ ?_
        · intro unchanged
          cases unchanged
        · intro failed
          cases failed
    | unavailable =>
        refine Standing.ended rfl signal ?_ ?_
        · intro unchanged
          cases unchanged
        · intro failed
          cases failed

theorem Sound.going (sound : world.Sound) {stage : Stage}
    (running : world.service.sync.pass = some pass) (under : pass.stage.isUnderWay = true)
    (plain : stage.isPlain = true)
    (asks : stage.hasAsked = true →
      (world.service.query? move).isSome = true ∨ pass.stage.hasAsked = true)
    (sync : after.sync = { world.service.sync with pass := some { pass with stage := stage } })
    (handle : after.handle = world.service.handle)
    (key : after.underKey = world.service.underKey) : (world.moved move after).Sound := by
  obtain ⟨signalled, marked, standing⟩ := sound
  have unread := isAt_isEntered_of_isUnderWay running under
  have idle : ¬ world.service.handle.installed < after.handle.installed := by
    rw [handle]
    exact Nat.lt_irrefl _
  have applied : after.sync.lastApplied = world.service.sync.lastApplied := by rw [sync]
  rw [World.moved, if_neg (Bool.eq_false_iff.mp unread), if_neg idle]
  have asked : ∀ marker, world.Includes marker world.asked → world.Includes marker
      (if (world.service.query? move).isSome then world.version :: world.asked
        else world.asked) := by
    intro marker includes
    split
    · exact includes.asked signalled
    · exact includes
  refine ⟨?_, ?_, ?_⟩
  · refine ⟨key.trans signalled.key, signalled.bounded, signalled.bumping, signalled.announced,
      signalled.heard, ?_, signalled.live⟩
    intro version member
    simp only at member
    split at member
    · rcases List.mem_cons.mp member with rfl | member
      · exact Nat.le_refl _
      · exact signalled.asked version member
    · exact signalled.asked version member
  · intro marker known
    rw [Sync.applied_eq applied] at known
    obtain ⟨own, live, current, some_⟩ := marked marker known
    exact ⟨asked marker own, live, handle ▸ current, some_⟩
  · intro now known
    rw [sync] at known
    cases known
    obtain ⟨_, signal, listed, _, _, pending⟩ := standing pass running
    refine ⟨?_, fun marker own => asked marker (signal marker own), ?_, ?_, ?_, ?_⟩
    · intro here
      cases here
      cases plain
    · intro here
      simp only
      split
      · exact List.cons_ne_nil _ _
      next silent => exact listed ((asks here).resolve_left silent)
    · intro generation here
      cases here
      cases plain
    · intro here
      cases here
      cases plain
    · rintro (⟨caller, _⟩ | here)
      · obtain ⟨marker, own, uncovered⟩ := pending (.inl ⟨caller, under⟩)
        exact ⟨marker, own, (Sync.covers_eq applied marker).trans uncovered⟩
      · cases here
        cases plain

theorem Sound.installing (sound : world.Sound) {compiled : Compiled} {engine : Engine}
    {generation : Generation} (running : world.service.sync.pass = some pass)
    (here : pass.stage = .installing compiled engine)
    (sync : after.sync = { world.service.sync with
      pass := some { pass with stage := .finished (.ok (.swapped generation)) } })
    (current : after.handle.current = some generation)
    (counted : after.handle.installed = world.service.handle.installed + 1)
    (key : after.underKey = world.service.underKey) : (world.moved move after).Sound := by
  obtain ⟨signalled, marked, standing⟩ := sound
  obtain ⟨_, signal, listed, _, _, pending⟩ := standing pass running
  have under : pass.stage.isUnderWay = true := by
    rw [here]
    rfl
  have some_ : world.asked ≠ [] := listed (by rw [here]; rfl)
  have unread := isAt_isEntered_of_isUnderWay running under
  have silent := Service.query?_of_isSilent running (by rw [here]; rfl) move
  have grown : world.service.handle.installed < after.handle.installed := by
    rw [counted]
    exact Nat.lt_succ_self _
  have applied : after.sync.lastApplied = world.service.sync.lastApplied := by rw [sync]
  have loaded : after.handle.current.isSome = true := by
    rw [current]
    rfl
  rw [World.moved, if_neg (Bool.eq_false_iff.mp unread),
    if_neg (Option.not_isSome_iff_eq_none.mpr silent), if_pos grown]
  refine ⟨?_, ?_, ?_⟩
  · exact ⟨key.trans signalled.key, signalled.bounded, signalled.bumping, signalled.announced,
      signalled.heard, signalled.asked, signalled.asked⟩
  · intro marker known
    rw [Sync.applied_eq applied] at known
    obtain ⟨asked, _, _, _⟩ := marked marker known
    exact ⟨asked, asked, loaded, some_⟩
  · intro now known
    rw [sync] at known
    cases known
    refine ⟨?_, signal, ?_, fun _ _ => ⟨loaded, rfl, some_⟩, ?_, ?_⟩
    · intro here
      cases here
    · intro here
      cases here
    · intro here
      cases here
    · rintro (⟨caller, _⟩ | here)
      · obtain ⟨marker, own, uncovered⟩ := pending (.inl ⟨caller, under⟩)
        exact ⟨marker, own, (Sync.covers_eq applied marker).trans uncovered⟩
      · cases here

theorem Sound.recording (sound : world.Sound) {result : Except PolicyError PassOutcome}
    (running : world.service.sync.pass = some pass) (here : pass.stage = .finished result) :
    (world.moved move (world.service.record pass result)).Sound := by
  obtain ⟨signalled, marked, standing⟩ := sound
  obtain ⟨_, signal, _, swapped, _, pending⟩ := standing pass running
  have under : pass.stage.isUnderWay = true := by
    rw [here]
    rfl
  have unread := isAt_isEntered_of_isUnderWay running under
  have silent := Service.query?_of_isSilent running (by rw [here]; rfl) move
  have idle : ¬ world.service.handle.installed <
      (world.service.record pass result).handle.installed := Nat.lt_irrefl _
  rw [World.moved, if_neg (Bool.eq_false_iff.mp unread),
    if_neg (Option.not_isSome_iff_eq_none.mpr silent), if_neg idle]
  refine ⟨?_, ?_, ?_⟩
  · exact ⟨signalled.key, signalled.bounded, signalled.bumping, signalled.announced,
      signalled.heard, signalled.asked, signalled.live⟩
  · intro marker known
    by_cases swap : ∃ generation, result = .ok (.swapped generation)
    -- The generation of this pass is live, so the versions that it asked are the live ones.
    · obtain ⟨generation, rfl⟩ := swap
      obtain ⟨current, same, some_⟩ := swapped generation here
      have includes : world.Includes marker world.asked := by
        rcases Service.applied_record_swapped known with before | own
        · exact (marked marker before).asked
        · exact signal marker own
      exact ⟨includes, same ▸ includes, current, some_⟩
    · have kept : (world.service.record pass result).sync.lastApplied =
          world.service.sync.lastApplied :=
        Service.lastApplied_record fun generation same => swap ⟨generation, same⟩
      rw [Sync.applied_eq kept] at known
      obtain ⟨asked, live, current, some_⟩ := marked marker known
      exact ⟨asked, live, current, some_⟩
  · intro now known
    cases known
    refine Standing.ended rfl signal ?_ ?_
    · intro answer
      obtain ⟨_, ⟨_, _, other⟩ | ⟨_, other⟩⟩ := Service.answerOf_tick answer
      · cases other
      · cases other
    · intro answer
      obtain ⟨caller, ⟨_, _, other⟩ | ⟨unswapped, _⟩⟩ := Service.answerOf_tick answer
      · cases other
      · obtain ⟨marker, own, uncovered⟩ := pending (.inl ⟨caller, under⟩)
        exact ⟨marker, own,
          (Sync.covers_eq (Service.lastApplied_record unswapped) marker).trans uncovered⟩

theorem Sound.moved (sound : world.Sound) (made : world.service.move? move = some after) :
    (world.moved move after).Sound := by
  obtain ⟨pass, running, moved⟩ := Service.moved_of_move? made
  cases moved.turn running with
  | reading next here read same => exact sound.reading running here read same
  | going stage under plain asks sync handle key =>
      exact sound.going running under plain asks sync handle key
  | installing compiled engine generation here sync current counted key =>
      exact sound.installing running here sync current counted key
  | recording result here same =>
      rw [same]
      exact sound.recording running here

end

theorem Sound.step {next : World} (sound : world.Sound) (step : world.Step next) : next.Sound := by
  cases sound.signalled.shift step with
  | elsewhere after version bump key handle applied pass later bumping =>
      exact sound.elsewhere key handle applied pass later bumping
  | entered caller => exact sound.entered caller
  | moved move after made => exact sound.moved made
  | announced after marker version key bounded beyond early sync handle =>
      exact sound.announced key bounded beyond early sync handle

theorem Sound.start {service : Service} (fresh : service.Fresh) : (start service).Sound := by
  refine ⟨?_, ?_, ?_⟩
  · refine ⟨fresh.absent, ?_, ?_, ?_, ?_, ?_, ?_⟩
    · intro marker written
      cases written
    · intro bump going
      cases going
    · intro change member
      cases member
    · intro change member
      cases member
    · intro version member
      cases member
    · intro version member
      cases member
  · intro marker known
    have unapplied : service.sync.applied = none := if_pos fresh.unapplied
    have same := unapplied.symm.trans known
    cases same
  · intro pass running
    have same := fresh.idle.symm.trans running
    cases same

theorem Sound.run {first last : World} (sound : first.Sound) (steps : first.Steps last) :
    last.Sound := by
  induction steps with
  | refl => exact sound
  | tail steps step ih => exact ih.step step

theorem Sound.reflects (sound : world.Sound) {change : Announcement}
    (announced : change ∈ world.announced)
    (covered : world.service.sync.covers change.marker = true) : world.Reflects change := by
  obtain ⟨applied, known, before⟩ := (Sync.covers_iff _ _).mp covered
  obtain ⟨_, live, current, some_⟩ := sound.applied applied known
  refine ⟨current, some_, ?_⟩
  intro version member
  exact ⟨live.2 change announced before version member, sound.signalled.live version member⟩

end

end World
end RoleGrants
