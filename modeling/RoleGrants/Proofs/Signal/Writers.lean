import Mathlib.Logic.Function.Basic
import Mathlib.Logic.Relation
import RoleGrants.Proofs.Signal.Markers

/-! # Writers side by side

Any number of writers bump one signal.  A bump reads the key, reads the clock and writes,
and between these steps the others go on (`Writers.Step`); with nothing in between it is
the bump of the signal (`Writers.steps_bump`).  The clock is one for all and never shows
the same time twice, so that every marker that is written is the time its bump has read
(`Timely`).

Nothing keeps a slow writer from writing over a marker that was read off the clock after
its own.  That is the only way in which the stored marker falls (`Timely.falls_iff`). -/

set_option autoImplicit false

namespace RoleGrants

inductive Writer where
  | idle
  | informed (present : Option Marker)
  | timed (present : Option Marker) (time : Marker)

structure FinishedBump where
  time : Marker
  marker : Marker

structure Writers where
  cache : CacheAccess := {}
  instant : Nat := 0
  clock : Marker := 0
  writer : Nat → Writer := fun _ => .idle
  finished : List FinishedBump := []

namespace Writers

variable {signal : Signal} {writers next later : Writers}

def stored (signal : Signal) (writers : Writers) : Option Marker :=
  signal.stored writers.cache

def told (signal : Signal) (writers : Writers) (index : Nat) (present : Option Marker) : Writers :=
  { writers with
    cache := (signal.read writers.cache writers.instant).1
    writer := Function.update writers.writer index (.informed present) }

def timed (writers : Writers) (index : Nat) (present : Option Marker) (now : Marker) : Writers :=
  { writers with
    clock := now
    writer := Function.update writers.writer index (.timed present now) }

def ended (signal : Signal) (writers : Writers) (index : Nat) (present : Option Marker)
    (time : Marker) : Writers :=
  { writers with
    cache := (signal.write writers.cache writers.instant (Marker.next time present)).1
    writer := Function.update writers.writer index .idle }

/-- One step of one writer, or something that leaves alone what is under the key. -/
inductive Step (signal : Signal) (writers : Writers) : Writers → Prop
  | read (index : Nat) (present : Option Marker) :
      writers.writer index = .idle →
      Signal.current (signal.read writers.cache writers.instant).2 = .ok present →
      Step signal writers (writers.told signal index present)
  | unread (index : Nat) (error : SignalError) :
      writers.writer index = .idle →
      Signal.current (signal.read writers.cache writers.instant).2 = .error error →
      Step signal writers { writers with
        cache := (signal.read writers.cache writers.instant).1 }
  | clock (index : Nat) (present : Option Marker) (now : Marker) :
      writers.writer index = .informed present → writers.clock < now → now ≤ Marker.greatest →
      Step signal writers (writers.timed index present now)
  | wrote (index : Nat) (present : Option Marker) (time marker : Marker) :
      writers.writer index = .timed present time →
      (signal.write writers.cache writers.instant (Marker.next time present)).2 = .ok marker →
      Step signal writers { writers.ended signal index present time with
        finished := ⟨time, marker⟩ :: writers.finished }
  | unwritten (index : Nat) (present : Option Marker) (time : Marker) (error : SignalError) :
      writers.writer index = .timed present time →
      (signal.write writers.cache writers.instant (Marker.next time present)).2 = .error error →
      Step signal writers (writers.ended signal index present time)
  | beside (cache : CacheAccess) (instant : Nat) :
      signal.underKey cache = signal.underKey writers.cache →
      Step signal writers { writers with cache := cache, instant := instant }

def Steps (signal : Signal) : Writers → Writers → Prop :=
  Relation.ReflTransGen (Step signal)

structure Fresh (signal : Signal) (writers : Writers) : Prop where
  idle : ∀ index, writers.writer index = .idle
  unfinished : writers.finished = []
  representable : Marker.least ≤ writers.clock
  kept : ∀ entry, signal.underKey writers.cache = some entry → entry.expiresAt = none
  behind : ∀ marker, writers.stored signal = some marker → marker ≤ writers.clock

theorem steps_bump {index : Nat} {time marker : Marker} (idle : writers.writer index = .idle)
    (late : writers.clock < time) (early : time ≤ Marker.greatest)
    (done : (signal.bump writers.cache writers.instant time).2 = .ok marker) :
    Steps signal writers { writers with
      cache := (signal.bump writers.cache writers.instant time).1
      clock := time
      finished := ⟨time, marker⟩ :: writers.finished } := by
  cases known : Signal.current (signal.read writers.cache writers.instant).2 with
  | error error =>
      rw [Signal.bump] at done
      simp only [known] at done
      cases done
  | ok present =>
      rw [Signal.bump_eq known] at done ⊢
      have back : Function.update (Function.update (Function.update writers.writer index
          (.informed present)) index (.timed present time)) index .idle = writers.writer := by
        rw [Function.update_idem, Function.update_idem, ← idle, Function.update_eq_self]
      have told : Step signal writers (writers.told signal index present) :=
        .read index present idle known
      have timed : Step signal (writers.told signal index present)
          ((writers.told signal index present).timed index present time) :=
        .clock index present time (Function.update_self ..) late early
      have wrote : Step signal ((writers.told signal index present).timed index present time) _ :=
        .wrote index present time marker (Function.update_self ..) done
      simp only [ended, Writers.timed, Writers.told, back] at wrote
      exact ((Relation.ReflTransGen.single told).tail timed).tail wrote

/-! ## Every marker is the time that its bump has read -/

/-- The writer knows of no marker beyond the clock, and of none that is not before the time that
it has read itself. -/
def IsTimely (signal : Signal) (writers : Writers) : Writer → Prop
  | .idle => True
  | .informed present => ∀ marker, present = some marker → marker ≤ writers.clock
  | .timed present time =>
      Marker.least ≤ time ∧ time ≤ Marker.greatest ∧ time ≤ writers.clock ∧
        (∀ marker, present = some marker → marker < time) ∧
        (writers.finished = [] → ∀ marker, writers.stored signal = some marker → marker < time)

/-- What holds all along.  The key carries the marker of the bump that has ended last. -/
structure Timely (signal : Signal) (writers : Writers) : Prop where
  representable : Marker.least ≤ writers.clock
  kept : ∀ entry, signal.underKey writers.cache = some entry → entry.expiresAt = none
  behind : ∀ marker, writers.stored signal = some marker → marker ≤ writers.clock
  each : ∀ index, writers.IsTimely signal (writers.writer index)
  finished : ∀ done ∈ writers.finished, done.marker = done.time
  last : ∀ done rest, writers.finished = done :: rest → writers.stored signal = some done.time

theorem Fresh.timely (fresh : writers.Fresh signal) : writers.Timely signal where
  representable := fresh.representable
  kept := fresh.kept
  behind := fresh.behind
  each index := by
    rw [fresh.idle index]
    trivial
  finished done member := by
    rw [fresh.unfinished] at member
    cases member
  last done rest ended := by
    rw [fresh.unfinished] at ended
    cases ended

theorem next_of_lt {present : Option Marker} {time : Marker}
    (beyond : ∀ marker, present = some marker → marker < time) :
    Marker.next time present = time := by
  cases present with
  | none => rfl
  | some marker =>
      rw [Marker.next, if_neg]
      exact Int.not_le.mpr (beyond marker rfl)

theorem each_update {before : Nat → Writer} {index : Nat} {now : Writer}
    (others : ∀ other, next.IsTimely signal (before other)) (own : next.IsTimely signal now) :
    ∀ other, next.IsTimely signal (Function.update before index now other) := by
  intro other
  by_cases same : other = index
  · rw [same, Function.update_self]
    exact own
  · rw [Function.update_of_ne same]
    exact others other

namespace Timely

theorem of_same (timely : writers.Timely signal)
    (same : signal.underKey next.cache = signal.underKey writers.cache)
    (clock : writers.clock ≤ next.clock) (finished : next.finished = writers.finished)
    (each : (∀ index, next.IsTimely signal (writers.writer index)) →
      ∀ index, next.IsTimely signal (next.writer index)) : next.Timely signal := by
  have stored : next.stored signal = writers.stored signal := by
    rw [Writers.stored, Writers.stored, Signal.stored, Signal.stored, same]
  refine ⟨Int.le_trans timely.representable clock, ?_, ?_, each ?_, ?_, ?_⟩
  · rw [same]
    exact timely.kept
  · intro marker held
    rw [stored] at held
    exact Int.le_trans (timely.behind marker held) clock
  · intro index
    have before := timely.each index
    cases at_ : writers.writer index with
    | idle => trivial
    | informed present =>
        rw [at_] at before
        exact fun marker known => Int.le_trans (before marker known) clock
    | timed present time =>
        rw [at_] at before
        obtain ⟨above, below, past, beyond, first⟩ := before
        refine ⟨above, below, Int.le_trans past clock, beyond, ?_⟩
        rw [finished, stored]
        exact first
  · rw [finished]
    exact timely.finished
  · rw [finished, stored]
    exact timely.last

theorem told (timely : writers.Timely signal) {index : Nat} {present : Option Marker}
    (known : Signal.current (signal.read writers.cache writers.instant).2 = .ok present) :
    (writers.told signal index present).Timely signal := by
  obtain ⟨unchanged, answered⟩ := Signal.read_cases writers.instant timely.kept
  refine timely.of_same (congrArg signal.underKey unchanged) (Int.le_refl _) rfl ?_
  intro others
  refine each_update others ?_
  intro marker given
  rcases answered with ⟨error, refused⟩ | heard
  · rw [refused] at known
    cases known
  · rw [heard, Signal.current_interpret] at known
    cases known
    refine timely.behind marker ?_
    rw [Writers.stored, Signal.stored, ← given]
    cases signal.underKey writers.cache <;> rfl

theorem timed (timely : writers.Timely signal) {index : Nat} {present : Option Marker}
    {now : Marker} (held : writers.writer index = .informed present) (late : writers.clock < now)
    (early : now ≤ Marker.greatest) : (writers.timed index present now).Timely signal := by
  refine timely.of_same rfl (Int.le_of_lt late) rfl ?_
  intro others
  have known := timely.each index
  rw [held] at known
  refine each_update others ⟨?_, early, Int.le_refl now, ?_, ?_⟩
  · exact Int.le_trans timely.representable (Int.le_of_lt late)
  · exact fun marker given => Int.lt_of_le_of_lt (known marker given) late
  · exact fun _ marker given => Int.lt_of_le_of_lt (timely.behind marker given) late

theorem written (timely : writers.Timely signal) {index : Nat} {present : Option Marker}
    {time marker : Marker} (held : writers.writer index = .timed present time)
    (done : (signal.write writers.cache writers.instant (Marker.next time present)).2 =
      .ok marker) :
    marker = time ∧
      signal.underKey (writers.ended signal index present time).cache =
        some { value := time.text } ∧
      signal.stored (writers.ended signal index present time).cache = some time := by
  have known := timely.each index
  rw [held] at known
  obtain ⟨above, below, _, beyond, _⟩ := known
  rcases Signal.write_cases signal writers.cache writers.instant (Marker.next time present) with
    ⟨error, refused⟩ | ⟨after, written, under⟩
  · rw [refused] at done
    cases done
  · have cache : (writers.ended signal index present time).cache = after := by
      rw [Writers.ended, written]
    rw [written] at done
    cases done
    rw [next_of_lt beyond] at under ⊢
    refine ⟨rfl, cache ▸ under, ?_⟩
    rw [cache, Signal.stored, under, Option.bind_some]
    exact Marker.ofText?_text above below

theorem wrote (timely : writers.Timely signal) {index : Nat} {present : Option Marker}
    {time marker : Marker} (held : writers.writer index = .timed present time)
    (done : (signal.write writers.cache writers.instant (Marker.next time present)).2 =
      .ok marker) :
    { writers.ended signal index present time with
      finished := ⟨time, marker⟩ :: writers.finished }.Timely signal := by
  obtain ⟨rfl, under, stored⟩ := timely.written held done
  have known := timely.each index
  rw [held] at known
  obtain ⟨above, below, past, beyond, _⟩ := known
  refine ⟨timely.representable, ?_, ?_, ?_, ?_, ?_⟩
  · intro entry found
    rw [under] at found
    cases found
    rfl
  · intro other found
    change signal.stored (writers.ended signal index present marker).cache = some other at found
    rw [stored] at found
    cases found
    exact past
  -- The other writers have read the clock before or not at all, so what they know still holds.
  · refine each_update ?_ trivial
    intro other
    have before := timely.each other
    cases at_ : writers.writer other with
    | idle => trivial
    | informed present =>
        rw [at_] at before
        exact before
    | timed present time =>
        rw [at_] at before
        obtain ⟨above, below, past, beyond, _⟩ := before
        exact ⟨above, below, past, beyond, fun none_ => by cases none_⟩
  · intro other member
    rcases List.mem_cons.mp member with rfl | earlier
    · rfl
    · exact timely.finished other earlier
  · intro other rest first
    cases first
    exact stored

theorem unwritten (timely : writers.Timely signal) {index : Nat} {present : Option Marker}
    {time : Marker} {error : SignalError}
    (refused : (signal.write writers.cache writers.instant (Marker.next time present)).2 =
      .error error) : (writers.ended signal index present time).Timely signal := by
  rcases Signal.write_cases signal writers.cache writers.instant (Marker.next time present) with
    ⟨reason, unchanged⟩ | ⟨after, written, _⟩
  · refine timely.of_same ?_ (Int.le_refl _) rfl fun others => each_update others trivial
    rw [Writers.ended, unchanged]
  · rw [written] at refused
    cases refused

theorem step (timely : writers.Timely signal) (moved : Step signal writers next) :
    next.Timely signal := by
  cases moved with
  | read index present idle known => exact timely.told known
  | unread index error idle refused =>
      have unchanged := (Signal.read_cases writers.instant timely.kept).1
      exact timely.of_same (congrArg signal.underKey unchanged) (Int.le_refl _) rfl id
  | clock index present now held late early => exact timely.timed held late early
  | wrote index present time marker held done => exact timely.wrote held done
  | unwritten index present time error held refused => exact timely.unwritten refused
  | beside cache instant same => exact timely.of_same same (Int.le_refl _) rfl id

theorem steps (timely : writers.Timely signal) (run : Steps signal writers next) :
    next.Timely signal := by
  induction run with
  | refl => exact timely
  | tail _ moved ih => exact ih.step moved

end Timely

/-! ## When the stored marker falls -/

/-- The stored marker becomes less, or there is none any more. -/
def Falls (signal : Signal) (writers next : Writers) : Prop :=
  ∃ old, writers.stored signal = some old ∧ ∀ new, next.stored signal = some new → new < old

/-- A bump ends that has read the clock before the one that ended last. -/
def Overtaken (writers next : Writers) : Prop :=
  ∃ done last rest, writers.finished = last :: rest ∧ next.finished = done :: last :: rest ∧
    done.time < last.time

/-- The bumps have ended in the order in which they have read the clock. -/
def InOrder (writers : Writers) : Prop :=
  writers.finished.Pairwise fun newer older => older.time < newer.time

namespace Timely

/-- A step leaves the stored marker, or it ends a bump and stores the time that it has read. -/
theorem step_cases (timely : writers.Timely signal) (moved : Step signal writers next) :
    next.stored signal = writers.stored signal ∧ next.finished = writers.finished ∨
      ∃ index present time, writers.writer index = .timed present time ∧
        next.finished = ⟨time, time⟩ :: writers.finished ∧ next.stored signal = some time := by
  have same : ∀ cache, signal.underKey cache = signal.underKey writers.cache →
      signal.stored cache = signal.stored writers.cache := by
    intro cache unchanged
    rw [Signal.stored, Signal.stored, unchanged]
  cases moved with
  | read index present idle known =>
      have unchanged := (Signal.read_cases writers.instant timely.kept).1
      exact .inl ⟨same _ (congrArg signal.underKey unchanged), rfl⟩
  | unread index error idle refused =>
      have unchanged := (Signal.read_cases writers.instant timely.kept).1
      exact .inl ⟨same _ (congrArg signal.underKey unchanged), rfl⟩
  | clock index present now held late early => exact .inl ⟨rfl, rfl⟩
  | wrote index present time marker held done =>
      obtain ⟨rfl, _, stored⟩ := timely.written held done
      exact .inr ⟨index, present, marker, held, rfl, stored⟩
  | unwritten index present time error held refused =>
      rcases Signal.write_cases signal writers.cache writers.instant (Marker.next time present) with
        ⟨reason, unchanged⟩ | ⟨after, written, _⟩
      · refine .inl ⟨same _ ?_, rfl⟩
        rw [Writers.ended, unchanged]
      · rw [written] at refused
        cases refused
  | beside cache instant unchanged => exact .inl ⟨same cache unchanged, rfl⟩

theorem falls_iff (timely : writers.Timely signal) (moved : Step signal writers next) :
    Falls signal writers next ↔ Overtaken writers next := by
  rcases timely.step_cases moved with
    ⟨stored, finished⟩ | ⟨index, present, time, held, finished, stored⟩
  · constructor
    · rintro ⟨old, before, less⟩
      exact absurd (less old (stored.trans before)) (Int.lt_irrefl old)
    · rintro ⟨done, last, rest, before, after, _⟩
      rw [finished, before] at after
      have lengths := congrArg List.length after
      simp at lengths
  · cases before : writers.finished with
    | nil =>
        have known := timely.each index
        rw [held] at known
        obtain ⟨_, _, _, _, first⟩ := known
        constructor
        · rintro ⟨old, held', less⟩
          have later := first before old held'
          exact absurd (Int.lt_trans later (less time stored)) (Int.lt_irrefl old)
        · rintro ⟨done, last, rest, ended, _⟩
          rw [before] at ended
          cases ended
    | cons last rest =>
        have top := timely.last last rest before
        rw [before] at finished
        constructor
        · rintro ⟨old, held', less⟩
          rw [top] at held'
          cases held'
          exact ⟨⟨time, time⟩, last, rest, before, finished, less time stored⟩
        · rintro ⟨done, other, others, ended, after, less⟩
          rw [finished] at after
          cases after
          refine ⟨last.time, top, ?_⟩
          intro new held'
          rw [stored] at held'
          cases held'
          exact less

/-! ## Bumps that end in order -/

theorem suffix (timely : writers.Timely signal) (run : Steps signal writers later) :
    writers.finished <:+ later.finished := by
  induction run with
  | refl => exact List.suffix_refl _
  | tail run moved ih =>
      rcases (timely.steps run).step_cases moved with ⟨_, same⟩ | ⟨_, _, _, _, grown, _⟩
      · rw [same]
        exact ih
      · rw [grown]
        exact ih.trans (List.suffix_cons _ _)

theorem rises (timely : writers.Timely signal) (run : Steps signal writers later)
    (ordered : later.InOrder) {old : Marker} (stored : writers.stored signal = some old) :
    ∃ new, later.stored signal = some new ∧ old ≤ new := by
  induction run with
  | refl => exact ⟨old, stored, Int.le_refl old⟩
  | @tail middle last run moved ih =>
      have timely' := timely.steps run
      have within := timely'.suffix (.single moved)
      obtain ⟨present, there, le⟩ := ih (ordered.sublist within.sublist)
      have stays : ¬ Falls signal middle last := by
        rw [timely'.falls_iff moved]
        rintro ⟨done, other, rest, _, ended, less⟩
        rw [InOrder, ended, List.pairwise_cons] at ordered
        exact absurd (Int.lt_trans less (ordered.1 other List.mem_cons_self)) (Int.lt_irrefl _)
      by_contra lower
      refine stays ⟨present, there, ?_⟩
      intro new now
      by_contra above
      exact lower ⟨new, now, Int.le_trans le (Int.not_lt.mp above)⟩

theorem le_stored (timely : writers.Timely signal) (ordered : writers.InOrder)
    {done : FinishedBump} (member : done ∈ writers.finished) :
    ∃ marker, writers.stored signal = some marker ∧ done.marker ≤ marker := by
  rw [timely.finished done member]
  cases ended : writers.finished with
  | nil =>
      rw [ended] at member
      cases member
  | cons last rest =>
      refine ⟨last.time, timely.last last rest ended, ?_⟩
      rw [InOrder, ended, List.pairwise_cons] at ordered
      rw [ended] at member
      rcases List.mem_cons.mp member with rfl | earlier
      · exact Int.le_refl _
      · exact Int.le_of_lt (ordered.1 done earlier)

theorem read_stored (timely : writers.Timely signal) {marker : Marker}
    (stored : writers.stored signal = some marker) :
    (∃ error, (signal.read writers.cache writers.instant).2 = .error (.cache error)) ∨
      (signal.read writers.cache writers.instant).2 = .ok (some marker) := by
  rcases (Signal.read_cases writers.instant timely.kept).2 with refused | heard
  · exact .inl refused
  · right
    obtain ⟨entry, under, meant⟩ := Option.bind_eq_some_iff.mp stored
    rw [heard, under, Option.map_some, Signal.interpret]
    simp only [meant]

end Timely

end Writers

open Writers

/-- The stored marker falls with those bumps alone that write behind a bump with a later time of
its own.  As long as bumps end in the order in which they read the clock it never falls, and
after a bump every reading that gets through finds its marker or a greater one. -/
theorem marker_falls_only_to_an_overtaken_bump {signal : Signal} {start writers : Writers}
    (fresh : start.Fresh signal) (reached : Steps signal start writers) :
    (∀ next, Writers.Step signal writers next →
      (Falls signal writers next ↔ Overtaken writers next)) ∧
      ∀ later, Steps signal writers later → later.InOrder →
        (∀ old, writers.stored signal = some old →
          ∃ new, later.stored signal = some new ∧ old ≤ new) ∧
        ∀ done ∈ writers.finished,
          (∃ error, (signal.read later.cache later.instant).2 = .error (.cache error)) ∨
            ∃ marker, (signal.read later.cache later.instant).2 = .ok (some marker) ∧
              done.marker ≤ marker := by
  have timely := fresh.timely.steps reached
  refine ⟨fun next moved => timely.falls_iff moved, ?_⟩
  intro later run ordered
  have after := timely.steps run
  refine ⟨fun old stored => timely.rises run ordered stored, ?_⟩
  intro done member
  obtain ⟨marker, stored, le⟩ := after.le_stored ordered ((timely.suffix run).subset member)
  rcases after.read_stored stored with refused | heard
  · exact .inl refused
  · exact .inr ⟨marker, heard, le⟩

def lateWriter : Writers :=
  (Writers.told {} {} 0 none).timed 0 none 1

def slowWriter : Writers :=
  { lateWriter with
    cache := (({} : Signal).bump lateWriter.cache lateWriter.instant 2).1
    clock := 2
    finished := [⟨2, 2⟩] }

theorem fresh_empty : ({} : Writers).Fresh {} where
  idle _ := rfl
  unfinished := rfl
  representable := by decide
  kept entry found := by cases found
  behind marker found := by cases found

theorem steps_slowWriter : Steps {} {} slowWriter := by
  have told : Writers.Step {} {} (Writers.told {} {} 0 none) := .read 0 none rfl rfl
  have timed : Writers.Step {} (Writers.told {} {} 0 none) lateWriter :=
    .clock 0 none 1 rfl (by decide) (by decide)
  have idle : lateWriter.writer 1 = .idle := rfl
  have bumped : Steps {} lateWriter slowWriter := steps_bump idle (by decide) (by decide) rfl
  exact ((Relation.ReflTransGen.single told).tail timed).trans bumped

theorem step_slowWriter : Writers.Step {} slowWriter
    { slowWriter.ended {} 0 none 1 with finished := ⟨1, 1⟩ :: slowWriter.finished } :=
  .wrote 0 none 1 1 rfl rfl

/-- It falls as the first writer writes; with the second one going on alone it does not. -/
theorem marker_falls_to_the_slow_writer :
    (({} : Writers).Fresh {} ∧ Steps {} {} slowWriter) ∧
      (∃ next, Writers.Step {} slowWriter next ∧ Falls {} slowWriter next) ∧
      ∃ later, Steps {} slowWriter later ∧ later.InOrder ∧
        ∃ new, later.stored {} = some new ∧ 2 ≤ new := by
  obtain ⟨falls, rises⟩ := marker_falls_only_to_an_overtaken_bump fresh_empty steps_slowWriter
  refine ⟨⟨fresh_empty, steps_slowWriter⟩, ⟨_, step_slowWriter, ?_⟩, ?_⟩
  · exact (falls _ step_slowWriter).mpr ⟨⟨1, 1⟩, ⟨2, 2⟩, [], rfl, rfl, by decide⟩
  · have idle : slowWriter.writer 1 = .idle := rfl
    have again : Steps {} slowWriter { slowWriter with
        cache := (({} : Signal).bump slowWriter.cache slowWriter.instant 3).1
        clock := 3
        finished := ⟨3, 3⟩ :: slowWriter.finished } :=
      steps_bump idle (by decide) (by decide) rfl
    have ordered : [(⟨3, 3⟩ : FinishedBump), ⟨2, 2⟩].Pairwise
        fun newer older => older.time < newer.time := by simp
    exact ⟨_, again, ordered, (rises _ again ordered).1 2 rfl⟩

theorem marker_can_fall_under_one_clock :
    ¬ ∀ start writers next : Writers, start.Fresh {} → Steps {} start writers →
      Writers.Step {} writers next → ¬ Falls {} writers next := by
  intro never
  have timely := fresh_empty.timely.steps steps_slowWriter
  refine never {} slowWriter _ fresh_empty steps_slowWriter step_slowWriter ?_
  exact (timely.falls_iff step_slowWriter).mpr ⟨⟨1, 1⟩, ⟨2, 2⟩, [], rfl, rfl, by decide⟩

end RoleGrants
