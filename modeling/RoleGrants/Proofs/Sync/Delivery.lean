import RoleGrants.Proofs.Sync.Announced
import RoleGrants.Proofs.Sync.Building

/-! # No announced change is lost

Whatever is announced up to the recorded marker is in the live generation, and no tick
takes the signal for unchanged while it is ahead of that
(`announced_changes_reach_the_generation`). -/

set_option autoImplicit false

namespace RoleGrants
namespace World

/-- No generation has been installed since this many, and the signal is ahead. -/
structure Behind (count : Nat) (marker : Marker) (world : World) : Prop where
  installed : world.service.handle.installed = count
  uncovered : world.service.sync.covers marker = false
  reached : ∃ last, world.written = some last ∧ marker ≤ last
  waiting : ∀ pass, world.service.sync.pass = some pass →
    (∀ generation, pass.stage ≠ .finished (.ok (.swapped generation))) ∧
      pass.stage ≠ .ended (.tick .unchanged)

section

variable {world : World} {count : Nat} {marker : Marker}

/-- As long as no generation is installed, no tick finds the signal covered. -/
theorem Behind.moved (behind : Behind count marker world) (sound : world.Sound) {move : Move}
    {after : Service} (made : world.service.move? move = some after) :
    Behind count marker (world.moved move after) ∨ count < after.handle.installed := by
  obtain ⟨pass, running, moved⟩ := Service.moved_of_move? made
  obtain ⟨installed, uncovered, reached, waiting⟩ := behind
  cases moved.turn running with
  | reading next here read same =>
      rw [(Service.reading_cases sound.signalled.key sound.signalled.bounded).1] at same
      subst same
      refine .inl ⟨installed, uncovered, reached, ?_⟩
      intro now known
      cases known
      cases read with
      | unchanged other known covered =>
          -- What is read is not before the marker that was missed, so it is not covered either.
          obtain ⟨last, written, before⟩ := reached
          rw [sound.signalled.written_eq known] at written
          cases written
          rw [Sync.covers_of_le before covered] at uncovered
          cases uncovered
      | _ =>
          constructor
          · intro generation here
            cases here
          · intro here
            cases here
  | going stage under plain asks sync handle key =>
      have applied : after.sync.lastApplied = world.service.sync.lastApplied := by rw [sync]
      refine .inl ⟨handle ▸ installed, (Sync.covers_eq applied marker).trans uncovered, reached, ?_⟩
      intro now known
      have same : after.sync.pass = some now := known
      rw [sync] at same
      cases same
      constructor
      · intro generation here
        cases here
        cases plain
      · intro here
        cases here
        cases plain
  | installing compiled engine generation here sync current counted key =>
      right
      rw [counted, installed]
      exact Nat.lt_succ_self count
  | recording result here same =>
      -- Only an installation leads to a swap, so nothing is recorded.
      subst same
      have unswapped : ∀ generation, result ≠ .ok (.swapped generation) := by
        intro generation swap
        rw [swap] at here
        exact (waiting pass running).1 generation here
      have applied : (world.service.record pass result).sync.lastApplied =
          world.service.sync.lastApplied := Service.lastApplied_record unswapped
      refine .inl ⟨installed, (Sync.covers_eq applied marker).trans uncovered, reached, ?_⟩
      intro now known
      cases known
      constructor
      · intro generation here
        cases here
      · intro answer
        obtain ⟨_, ⟨_, _, other⟩ | ⟨_, other⟩⟩ := Service.answerOf_tick (Stage.ended.inj answer)
        · cases other
        · cases other

theorem Behind.step {next : World} (behind : Behind count marker world) (sound : world.Sound)
    (step : world.Step next) :
    Behind count marker next ∨ count < next.service.handle.installed := by
  cases sound.signalled.shift step with
  | elsewhere after version bump key handle applied pass later bumping =>
      obtain ⟨installed, uncovered, reached, waiting⟩ := behind
      refine .inl ⟨handle ▸ installed, (Sync.covers_eq applied marker).trans uncovered, reached, ?_⟩
      intro running known
      rcases pass with none_ | same
      · rw [none_] at known
        cases known
      · exact waiting running (same ▸ known)
  | entered caller =>
      obtain ⟨installed, uncovered, reached, _⟩ := behind
      refine .inl ⟨installed, uncovered, reached, ?_⟩
      intro pass known
      cases known
      constructor
      · intro generation here
        cases here
      · intro here
        cases here
  | moved move after made => exact behind.moved sound made
  | announced after written version key bounded beyond early sync handle =>
      obtain ⟨installed, uncovered, ⟨last, reached, before⟩, waiting⟩ := behind
      have after_ : marker ≤ written := Int.le_trans before (Int.le_of_lt (beyond last reached))
      exact .inl ⟨handle ▸ installed, sync ▸ uncovered, ⟨written, rfl, after_⟩, sync ▸ waiting⟩

theorem Sound.installed_le {next : World} (sound : world.Sound) (step : world.Step next) :
    world.service.handle.installed ≤ next.service.handle.installed := by
  cases sound.signalled.shift step with
  | elsewhere after version bump key handle applied pass later bumping =>
      exact Nat.le_of_eq (handle ▸ rfl)
  | entered caller => exact Nat.le_refl _
  | moved move after made =>
      obtain ⟨pass, running, moved⟩ := Service.moved_of_move? made
      cases moved.turn running with
      | reading next here read same =>
          rw [same]
          exact Nat.le_refl _
      | going stage under plain asks sync handle key => exact Nat.le_of_eq (handle ▸ rfl)
      | installing compiled engine generation here sync current counted key =>
          exact Nat.le_trans (Nat.le_succ _) (Nat.le_of_eq counted.symm)
      | recording result here same =>
          rw [same]
          exact Nat.le_refl _
  | announced after written version key bounded beyond early sync handle =>
      exact Nat.le_of_eq (handle ▸ rfl)

theorem Behind.run {later : World} (behind : Behind count marker world) (sound : world.Sound)
    (steps : world.Steps later) :
    Behind count marker later ∨ count < later.service.handle.installed := by
  induction steps with
  | refl => exact .inl behind
  | tail steps step ih =>
      have sound := sound.run steps
      rcases ih with behind | installed
      · exact behind.step sound step
      · exact .inr (Nat.lt_of_lt_of_le installed (sound.installed_le step))

theorem Sound.behind_of_failed (sound : world.Sound) (failed : world.Answers (.tick .failed)) :
    ∃ marker, Behind world.service.handle.installed marker world := by
  obtain ⟨pass, running, here⟩ := exists_pass_of_answers failed
  have standing := sound.standing pass running
  obtain ⟨marker, own, uncovered⟩ := standing.pending (.inr here)
  refine ⟨marker, rfl, uncovered, (standing.signal marker own).1, ?_⟩
  intro other known
  rw [running] at known
  cases known
  rw [here]
  constructor
  · intro generation swapped
    cases swapped
  · intro unchanged
    cases unchanged

end

end World

/-- In every run, what is announced up to the recorded marker is in all that the pass of
the live generation has asked; a tick that answers that nothing has changed finds all that
it could hear of in the live generation; and after a tick that failed none does so before a
generation has been installed. -/
theorem announced_changes_reach_the_generation {service : Service} {world : World}
    (fresh : service.Fresh) (steps : (World.start service).Steps world) :
    (∀ change ∈ world.announced, ∀ applied, world.service.sync.applied = some applied →
        change.marker ≤ applied → world.Reflects change) ∧
      (world.Answers (.tick .unchanged) → ∀ change ∈ world.heard, world.Reflects change) ∧
      (world.Answers (.tick .failed) →
        ∀ later, world.Steps later → later.Answers (.tick .unchanged) →
          world.service.handle.installed < later.service.handle.installed) := by
  have sound := (World.Sound.start fresh).run steps
  refine ⟨?_, ?_, ?_⟩
  · intro change announced applied known before
    exact sound.reflects announced ((Sync.covers_iff _ _).mpr ⟨applied, known, before⟩)
  · intro answers change heard
    obtain ⟨pass, running, here⟩ := World.exists_pass_of_answers answers
    have covered := (sound.standing pass running).unchanged here change heard
    exact sound.reflects (sound.signalled.heard change heard) covered
  · intro answers later onward unchanged
    obtain ⟨marker, behind⟩ := sound.behind_of_failed answers
    rcases behind.run sound onward with still | installed
    · obtain ⟨pass, running, here⟩ := World.exists_pass_of_answers unchanged
      exact absurd here (still.waiting pass running).2
    · exact installed

/-! ## A run -/

namespace World

def announce (world : World) : World :=
  match world.bumpBegun.bump with
  | none => world.bumpBegun
  | some bump => world.bumpBegun.bumpEnded bump

theorem steps_announce {world : World} (free : world.bump.isNone = true)
    (timed : Marker.least ≤ world.service.clock.wall)
    (room : ∀ bump ∈ world.bumpBegun.bump,
      Marker.next world.service.clock.wall bump.present < Marker.greatest) :
    world.Steps world.announce := by
  have begun : world.Steps world.bumpBegun :=
    .single (.bumpBegun (Option.isNone_iff_eq_none.mp free))
  rw [announce]
  split
  · exact begun
  next bump going => exact begun.tail (.bumpEnded bump going timed (room bump going))

def ticked (world : World) : World :=
  advanceFor 60 (world.begun .tick)

theorem steps_ticked (world : World) : world.Steps world.ticked :=
  .head (.begun .tick) (steps_advanceFor 60 _)

theorem answers_of_any {world : World} {answer : CallAnswer} {test : CallAnswer → Bool}
    (only : ∀ other, test other = true → other = answer)
    (passed : world.service.conclude.2.any test = true) : world.Answers answer := by
  rw [Answers]
  cases given : world.service.conclude.2 with
  | none =>
      rw [given] at passed
      cases passed
  | some other =>
      rw [given] at passed
      rw [only other passed]

end World

def CallAnswer.isUnchanged : CallAnswer → Bool
  | .tick .unchanged => true
  | _ => false

def emptyService : Service where
  files.nodes := Table.empty.insert "/model.conf"
    (.file "[policy_definition]\np = subject, object, action" false)
  settings.modelPath := "/model.conf"
  settings.policyPath := "/policy.csv"

def emptyWorld : World :=
  (World.start emptyService).announce.ticked

def grantedWorld : World :=
  (emptyWorld.concluded.mutated (oneGrantService "/a").store.memory).announce

def filledWorld : World :=
  grantedWorld.ticked.concluded.ticked

def lateWorld : World :=
  (filledWorld.mutated Store.empty).announce

theorem steps_emptyWorld : (World.start emptyService).Steps emptyWorld := by
  refine (World.steps_announce rfl (by decide) ?_).trans (World.steps_ticked _)
  decide +kernel

theorem steps_filledWorld : emptyWorld.Steps filledWorld := by
  have granted : emptyWorld.Steps grantedWorld := by
    refine .trans (.tail (.single .concluded) (.mutated _)) (World.steps_announce ?_ ?_ ?_)
    · decide +kernel
    · decide +kernel
    · decide +kernel
  refine granted.trans ?_
  exact ((World.steps_ticked _).tail .concluded).trans (World.steps_ticked _)

theorem steps_lateWorld : filledWorld.Steps lateWorld := by
  have ready : (filledWorld.mutated Store.empty).bump.isNone = true ∧
      Marker.least ≤ (filledWorld.mutated Store.empty).service.clock.wall ∧
      ∀ bump ∈ (filledWorld.mutated Store.empty).bumpBegun.bump,
        Marker.next (filledWorld.mutated Store.empty).service.clock.wall bump.present <
          Marker.greatest := by
    decide +kernel
  obtain ⟨free, timed, room⟩ := ready
  exact .trans (.single (.mutated Store.empty)) (World.steps_announce free timed room)

theorem answers_unchanged {world : World}
    (unchanged : world.service.conclude.2.any CallAnswer.isUnchanged = true) :
    world.Answers (.tick .unchanged) := by
  refine World.answers_of_any ?_ unchanged
  intro other unchanged
  cases other with
  | tick result => cases result <;> first | rfl | cases unchanged
  | _ => cases unchanged

theorem answers_filledWorld : filledWorld.Answers (.tick .unchanged) :=
  answers_unchanged (by decide +kernel)

theorem fresh_emptyService : emptyService.Fresh :=
  ⟨rfl, rfl, rfl⟩

/-- The second bump announces the first change of the rows, and the generation has it. -/
theorem filled_rows_reach_the_generation :
    emptyService.Fresh ∧ (World.start emptyService).Steps filledWorld ∧
      filledWorld.Answers (.tick .unchanged) ∧ ⟨1, 1⟩ ∈ filledWorld.heard ∧
      filledWorld.Reflects ⟨1, 1⟩ := by
  have steps := steps_emptyWorld.trans steps_filledWorld
  have heard : ⟨1, 1⟩ ∈ filledWorld.heard := by decide +kernel
  obtain ⟨_, reflected, _⟩ := announced_changes_reach_the_generation fresh_emptyService steps
  exact ⟨fresh_emptyService, steps, answers_filledWorld, heard,
    reflected answers_filledWorld _ heard⟩

/-- A tick that answers that nothing has changed can miss a bump that ends after it has read
the signal. -/
theorem unchanged_can_miss_a_late_bump :
    ¬ ∀ world, (World.start emptyService).Steps world → world.Answers (.tick .unchanged) →
      ∀ change ∈ world.announced, world.Reflects change := by
  intro always
  have steps := (steps_emptyWorld.trans steps_filledWorld).trans steps_lateWorld
  have answers : lateWorld.Answers (.tick .unchanged) := answers_unchanged (by decide +kernel)
  have missed : ⟨3, 2⟩ ∈ lateWorld.announced ∧ 1 ∈ lateWorld.live := by decide +kernel
  obtain ⟨announced, asked⟩ := missed
  obtain ⟨_, _, late⟩ := always lateWorld steps answers _ announced
  exact absurd (late 1 asked).1 (by decide)

end RoleGrants
