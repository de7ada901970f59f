import RoleGrants.Proofs.Cache.Isolation
import RoleGrants.Proofs.Signal.Markers

/-! # One bump after another

What a bump has written is read at any time after (`Signal.read_write`), and it is beyond
the marker that the bump has found, unless this was the greatest of all already: then the
greatest is written again (`Marker.advances_next`).  So the markers of a run of bumps
ascend, whatever stands under the key at first and whatever the clock shows, until one is
the greatest; from there on all are.  They do not get there sooner than they have to: each
is the time, or one more than an earlier one (`bumps_advance_up_to_the_greatest`). -/

set_option autoImplicit false

namespace RoleGrants

namespace Text

theorem bounds_of_signed? {least greatest number : Int} {text : String}
    (read : signed? least greatest text = some number) : least ≤ number ∧ number ≤ greatest := by
  rw [signed?] at read
  obtain ⟨value, _, bounded⟩ := Option.bind_eq_some_iff.mp read
  split at bounded
  next bounds =>
    cases bounded
    exact bounds
  next => cases bounded

end Text

namespace Marker

/-- The later marker is beyond the earlier one, or both are the greatest of all. -/
def Advances (earlier later : Int) : Prop :=
  earlier < later ∨ earlier = greatest ∧ later = greatest

variable {earlier middle later now : Int}

theorem Advances.trans (first : Advances earlier middle) (second : Advances middle later) :
    Advances earlier later := by
  rcases first with less | ⟨top, topmost⟩ <;> rcases second with more | ⟨same, full⟩
  · exact .inl (Int.lt_trans less more)
  · exact .inl (full.trans same.symm ▸ less)
  · exact .inl (top.trans topmost.symm ▸ more)
  · exact .inr ⟨top, full⟩

def IsWhole (marker : Int) : Prop :=
  least ≤ marker ∧ marker ≤ greatest

instance (marker : Int) : Decidable (IsWhole marker) :=
  inferInstanceAs (Decidable (least ≤ marker ∧ marker ≤ greatest))

theorem isWhole_of_ofText? {text : String} {marker : Marker} (read : ofText? text = some marker) :
    IsWhole marker :=
  Text.bounds_of_signed? read

theorem isWhole_next (time : IsWhole now) {current : Option Int}
    (present : ∀ marker, current = some marker → IsWhole marker) : IsWhole (next now current) := by
  cases current with
  | none => exact time
  | some marker =>
      rw [next]
      split
      · obtain ⟨above, below⟩ := present marker rfl
        have room : least ≤ greatest := by decide
        exact ⟨Int.le_min.mpr ⟨Int.le_add_one above, room⟩, Int.min_le_right _ _⟩
      · exact time

theorem next_cases (now : Int) {current : Option Int}
    (bounded : ∀ marker, current = some marker → IsWhole marker) :
    next now current = now ∨
      ∃ before, current = some before ∧ (next now current = before + 1 ∨ before = greatest) := by
  cases current with
  | none => exact .inl rfl
  | some before =>
      rw [next]
      split
      · refine .inr ⟨before, rfl, ?_⟩
        rcases Int.lt_or_eq_of_le (bounded before rfl).2 with room | full
        · exact .inl (Int.min_eq_left room)
        · exact .inr full
      · exact .inl rfl

theorem advances_next {present : Int} (time : IsWhole now) (whole : IsWhole present) :
    Advances present (next now (some present)) := by
  have bounds : IsWhole (next now (some present)) := isWhole_next time fun marker same => by
    cases same
    exact whole
  rcases Int.lt_or_eq_of_le bounds.2 with room | full
  · exact .inl (lt_next room)
  · rcases Int.lt_or_eq_of_le whole.2 with below | topmost
    · exact .inl (full ▸ below)
    · exact .inr ⟨topmost, full⟩

end Marker

namespace Signal

variable {signal : Signal} {cache after : CacheAccess} {instant : Nat} {marker time : Marker}

theorem refused?_read (signal : Signal) (cache : CacheAccess) (instant : Nat) :
    (signal.read cache instant).1.refused? = cache.refused? := by
  rw [read, CacheAccess.get, CacheAccess.call]
  cases refused : cache.refused? with
  | some error => exact refused
  | none => exact refused

theorem refused?_of_write (written : signal.write cache instant marker = (after, .ok marker)) :
    after.refused? = none := by
  rw [write, CacheAccess.set, CacheAccess.call] at written
  cases refused : cache.refused? with
  | some error =>
      rw [refused] at written
      cases written
  | none =>
      rw [refused] at written
      cases written
      exact refused

theorem exists_write (open_ : cache.refused? = none) (signal : Signal) (instant : Nat)
    (marker : Marker) : ∃ after, signal.write cache instant marker = (after, .ok marker) := by
  rw [write, CacheAccess.set, CacheAccess.call, open_]
  exact ⟨_, rfl⟩

theorem read_write (written : signal.write cache instant marker = (after, .ok marker))
    (above : Marker.least ≤ marker) (below : marker ≤ Marker.greatest) (later : Nat) :
    (signal.read after later).2 = .ok (some marker) := by
  have answers := refused?_of_write written
  rcases signal.write_cases cache instant marker with ⟨error, refused⟩ | ⟨other, done, under⟩
  · rw [refused] at written
    cases written
  · cases done.symm.trans written
    have found : after.memory.entries.get? (signal.name.filed after.memory.delimiter) =
        some { value := marker.text } := under
    have lasting : ({ value := marker.text } : CacheEntry).isExpired later = false := rfl
    rw [Signal.read_eq, answers, Cache.live, found]
    simp only [Option.filter_some, lasting, Bool.not_false, if_true, Option.map_some, interpret,
      Marker.ofText?_text above below]

/-- A cache that answers tells a bump of no marker or of one of 64 bits. -/
theorem exists_current (open_ : cache.refused? = none) (signal : Signal) (instant : Nat) :
    ∃ present, current (signal.read cache instant).2 = .ok present ∧
      ∀ marker, present = some marker → Marker.IsWhole marker := by
  rw [Signal.read_eq, open_]
  refine ⟨_, current_interpret _, ?_⟩
  intro marker found
  obtain ⟨text, _, meant⟩ := Option.bind_eq_some_iff.mp found
  exact Marker.isWhole_of_ofText? meant

/-- A bump of a cache that answers writes a marker that is read at any time after. -/
theorem exists_bump (open_ : cache.refused? = none) (signal : Signal) (instant : Nat)
    {present : Option Marker} (known : current (signal.read cache instant).2 = .ok present)
    (whole : Marker.IsWhole time) :
    ∃ after, signal.bump cache instant time = (after, .ok (Marker.next time present)) ∧
      after.refused? = none ∧
      (∀ later, (signal.read after later).2 = .ok (some (Marker.next time present))) ∧
      ∀ marker, present = some marker → Marker.IsWhole marker := by
  obtain ⟨found, same, bounded⟩ := exists_current open_ signal instant
  cases known.symm.trans same
  have bounds := Marker.isWhole_next whole bounded
  obtain ⟨after, written⟩ :=
    exists_write ((signal.refused?_read cache instant).trans open_) signal instant
      (Marker.next time present)
  exact ⟨after, (bump_eq known).trans written, refused?_of_write written,
    read_write written bounds.1 bounds.2, bounded⟩

/-- One bump after another, each at what the two clocks show then. -/
def bumps (signal : Signal) (cache : CacheAccess) :
    List (Nat × Marker) → CacheAccess × List (Except SignalError Marker)
  | [] => (cache, [])
  | (instant, time) :: rest =>
      let bumped := signal.bump cache instant time
      let last := signal.bumps bumped.1 rest
      (last.1, bumped.2 :: last.2)

end Signal

/-- With nothing in between, bumps at these times after the present marker write these markers:
each is beyond all before it, unless it and the one before are the greatest of all; and each is
the time, or the one after an earlier marker, unless an earlier one is the greatest. -/
structure Marker.Ascends (present : Option Marker) (times markers : List Marker) : Prop where
  count : markers.length = times.length
  advances : (present.toList ++ markers).Pairwise Advances
  near : ∀ index (inside : index < times.length), markers[index]? = some times[index] ∨
    ∃ before ∈ present.toList ++ markers.take index,
      markers[index]? = some (before + 1) ∨ before = greatest

theorem Marker.Ascends.cons {present : Option Marker} {time : Marker} {times markers : List Marker}
    (ascends : Ascends (some (next time present)) times markers) (whole : IsWhole time)
    (bounded : ∀ marker, present = some marker → IsWhole marker) :
    Ascends present (time :: times) (next time present :: markers) where
  count := congrArg (· + 1) ascends.count
  advances := by
    cases present with
    | none => exact ascends.advances
    | some before =>
        have first : Advances before (next time (some before)) :=
          advances_next whole (bounded before rfl)
        obtain ⟨others, _⟩ := List.pairwise_cons.mp ascends.advances
        refine .cons (List.forall_mem_cons.mpr ⟨first, ?_⟩) ascends.advances
        exact fun later member => first.trans (others later member)
  near index inside := by
    cases index with
    | zero =>
        rcases next_cases time bounded with own | ⟨before, found, near⟩
        · exact .inl (congrArg some own)
        · refine .inr ⟨before, by simp [found], near.imp_left (congrArg some)⟩
    | succ index =>
        rcases ascends.near index (Nat.lt_of_succ_lt_succ inside) with own | ⟨before, earlier, near⟩
        · exact .inl own
        · refine .inr ⟨before, List.mem_append_right _ ?_, near⟩
          rwa [List.take_succ_cons]

theorem Signal.bumps_ascend (signal : Signal) {cache : CacheAccess}
    (open_ : cache.refused? = none) {readings : List (Nat × Marker)}
    (times : ∀ reading ∈ readings, Marker.IsWhole reading.2) {present : Option Marker}
    (found : ∀ reading ∈ readings.head?,
      Signal.current (signal.read cache reading.1).2 = .ok present) :
    ∃ markers : List Marker, (signal.bumps cache readings).2 = markers.map .ok ∧
      Marker.Ascends present (readings.map Prod.snd) markers ∧
      ∀ index < readings.length, ∀ later,
        (signal.read (signal.bumps cache (readings.take (index + 1))).1 later).2 =
          .ok markers[index]? := by
  -- What the first bump has written is what the next one finds, so the rest is a run of its own.
  induction readings generalizing cache present with
  | nil =>
      refine ⟨[], rfl, ⟨rfl, ?_, nofun⟩, nofun⟩
      cases present <;> simp
  | cons reading rest ih =>
      obtain ⟨instant, time⟩ := reading
      obtain ⟨whole, times⟩ := List.forall_mem_cons.mp times
      have known := found (instant, time) rfl
      obtain ⟨after, bumped, open_, told, bounded⟩ := exists_bump open_ signal instant known whole
      have next : ∀ reading ∈ rest.head?, Signal.current (signal.read after reading.1).2 =
          .ok (some (Marker.next time present)) := by
        intro reading _
        rw [told]
        rfl
      obtain ⟨markers, answers, ascends, reads⟩ := ih open_ times next
      refine ⟨Marker.next time present :: markers, ?_, ascends.cons whole bounded, ?_⟩
      · rw [Signal.bumps, bumped, answers, List.map_cons]
      · intro index inside
        rw [List.take_succ_cons, Signal.bumps, bumped]
        cases index with
        | zero => exact told
        | succ index => exact reads index (Nat.lt_of_succ_lt_succ inside)

/-- Over a cache that answers, whatever it holds, all bumps that come one after another succeed,
whatever the clocks show.  Their markers ascend from the one that the first bump has found, up
to the greatest; and after each bump its marker is read, at any time. -/
theorem bumps_advance_up_to_the_greatest (signal : Signal) {cache : CacheAccess}
    (open_ : cache.refused? = none) {readings : List (Nat × Marker)}
    (times : ∀ reading ∈ readings, Marker.IsWhole reading.2) :
    ∃ (present : Option Marker) (markers : List Marker),
      (∀ reading ∈ readings.head?,
        Signal.current (signal.read cache reading.1).2 = .ok present) ∧
      (signal.bumps cache readings).2 = markers.map .ok ∧
      Marker.Ascends present (readings.map Prod.snd) markers ∧
      ∀ index < readings.length, ∀ later,
        (signal.read (signal.bumps cache (readings.take (index + 1))).1 later).2 =
          .ok markers[index]? := by
  have exists_present : ∃ present, ∀ reading ∈ readings.head?,
      Signal.current (signal.read cache reading.1).2 = .ok present := by
    cases readings with
    | nil => exact ⟨none, nofun⟩
    | cons reading rest =>
        obtain ⟨present, known, _⟩ := Signal.exists_current open_ signal reading.1
        refine ⟨present, ?_⟩
        rintro _ ⟨⟩
        exact known
  obtain ⟨present, found⟩ := exists_present
  obtain ⟨markers, run⟩ := signal.bumps_ascend open_ times found
  exact ⟨present, markers, found, run⟩

def paddedCache : CacheAccess :=
  (({} : CacheAccess).set 0 "role" "sync:casbin" " 41\n" none).1

/-- The clock stands and then goes back. -/
theorem padded_marker_is_advanced :
    paddedCache.refused? = none ∧
      (∀ reading ∈ [(0, 41), (0, 41), (0, 7)], Marker.IsWhole reading.2) ∧
      (({} : Signal).bumps paddedCache [(0, 41), (0, 41), (0, 7)]).2 = [.ok 42, .ok 43, .ok 44] ∧
      Marker.Ascends (some 41) [41, 41, 7] [42, 43, 44] ∧
      (({} : Signal).read (({} : Signal).bumps paddedCache [(0, 41), (0, 41), (0, 7)]).1 0).2 =
        .ok (some 44) := by
  have times : ∀ reading ∈ [(0, 41), (0, 41), (0, 7)], Marker.IsWhole reading.2 := by decide
  have open_ : paddedCache.refused? = none := rfl
  obtain ⟨present, markers, found, answers, ascends, reads⟩ :=
    bumps_advance_up_to_the_greatest {} open_ times
  have known : Signal.current (({} : Signal).read paddedCache 0).2 = .ok (some 41) := by
    decide +kernel
  have same : (({} : Signal).bumps paddedCache [(0, 41), (0, 41), (0, 7)]).2 =
      [42, 43, 44].map .ok := by decide +kernel
  have before : present = some 41 := Except.ok.inj ((found (0, 41) rfl).symm.trans known)
  have own : markers = [42, 43, 44] :=
    List.map_injective_iff.mpr (fun _ _ => Except.ok.inj) (answers.symm.trans same)
  subst before own
  exact ⟨open_, times, same, ascends, reads 2 (by decide) 0⟩

/-- A bump that finds the greatest marker writes it again. -/
theorem greatest_marker_is_not_advanced :
    ¬ ∀ (signal : Signal) (cache : CacheAccess) (instant : Nat) (time present marker : Marker),
      cache.refused? = none → Marker.IsWhole time →
      (signal.read cache instant).2 = .ok (some present) →
      (signal.bump cache instant time).2 = .ok marker → present < marker := by
  intro claimed
  let full := (({} : CacheAccess).set 0 "role" "sync:casbin" "9223372036854775807" none).1
  have found : (({} : Signal).read full 0).2 = .ok (some Marker.greatest) := by decide +kernel
  have again : (({} : Signal).bump full 0 0).2 = .ok Marker.greatest := by decide +kernel
  have beyond := claimed {} full 0 0 _ _ rfl (by decide) found again
  exact Int.lt_irrefl _ beyond

end RoleGrants
