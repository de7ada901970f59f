import RoleGrants.Proofs.Pool.Steps

/-! # Schedules of the pool

Whatever the order in which the feeder, the workers and the joins move, a pool of
plain formatters comes to the one policy of the holdings that it was given: no
schedule gets stuck before there is an outcome (`exists_event`), and every outcome
is that policy (`outcome_isPolicyOf`).  `Sound` is what all pools on the way have
in common. -/

set_option autoImplicit false

namespace RoleGrants.Pool

/-! ## Nothing is lost -/

namespace Meter

theorem tally_step (meter : Meter) {pool next : Pool}
    (stepped : Stepped Formatter.plain pool next) :
    (next.merged = pool.merged ∧ meter.tally next = meter.tally pool) ∨
      ∃ base, next.merged = pool.merged.absorb base ∧
        meter.tally next + meter.worker (.ended base) = meter.tally pool := by
  -- Each law of the meter is about one worker; a step weighs one worker and its surroundings.
  cases stepped with
  | sent holding feed fed room =>
      left
      refine ⟨rfl, ?_⟩
      simp only [tally, fed, total, total_append]
      omega
  | closed fed unclosed => exact .inl ⟨rfl, rfl⟩
  | acquired index base found =>
      have changed := meter.tally_withWorker found (.receiving base)
      have same := meter.acquiring base
      exact .inl ⟨rfl, by omega⟩
  | received index base holding queue found queued =>
      left
      refine ⟨rfl, ?_⟩
      have changed := total_set meter.worker found
        (.working (Pool.received base holding) holding.roleId holding.resources)
      have same := meter.receiving base holding
      simp only [tally, withWorker, queued, total] at changed ⊢
      omega
  | rested index base roleId found =>
      have changed := meter.tally_withWorker found (.waiting base)
      have same := meter.resting base roleId
      exact .inl ⟨rfl, by omega⟩
  | formatted index base roleId resource rest line found made =>
      have plain : Line.ofResource roleId resource = line := Option.some.inj made
      subst plain
      have changed := meter.tally_withWorker found
        (.working (addLine base (Line.ofResource roleId resource)) roleId rest)
      have same := meter.formatting base roleId resource rest
      exact .inl ⟨rfl, by omega⟩
  | crashed index base roleId resource rest found unmade => cases unmade
  | left index base found closed empty =>
      have changed := meter.tally_withWorker found (.ended base)
      have same := meter.leaving base
      exact .inl ⟨rfl, by omega⟩
  | joined index base found closed =>
      have changed := meter.tally_withWorker found .joined
      have nothing := meter.joined
      refine .inr ⟨base, rfl, ?_⟩
      simp only [tally, withWorker] at changed ⊢
      omega
  | failed index found closed =>
      left
      refine ⟨rfl, ?_⟩
      have changed := meter.tally_withWorker found .joined
      have nothing := meter.joined
      have lost := meter.crashed
      simp only [tally, withWorker] at changed ⊢
      omega
  | finished closed all => exact .inl ⟨rfl, rfl⟩

/-- What is counted in the whole, together with what is still on its way, never changes. -/
theorem counted_step (meter : Meter) (count : Compiled → Nat)
    (ended : ∀ base, meter.worker (.ended base) = count base)
    (absorbed : ∀ whole base, count (whole.absorb base) = count whole + count base)
    {pool next : Pool} (stepped : Stepped Formatter.plain pool next) :
    count next.merged + meter.tally next = count pool.merged + meter.tally pool := by
  rcases meter.tally_step stepped with ⟨merged, same⟩ | ⟨base, merged, moved⟩
  · rw [merged, same]
  · have part := ended base
    rw [merged, absorbed]
    omega

end Meter

/-- A line that the whole holds or that is on its way stays so, and no line is made up. -/
theorem line_step (line : Line) {pool next : Pool}
    (stepped : Stepped Formatter.plain pool next) :
    (line ∈ next.merged.lines ∨ 0 < (lineMeter line).tally next) ↔
      (line ∈ pool.merged.lines ∨ 0 < (lineMeter line).tally pool) := by
  rcases (lineMeter line).tally_step stepped with ⟨merged, same⟩ | ⟨base, merged, moved⟩
  · rw [merged, same]
  · have ended : (lineMeter line).worker (.ended base) = base.lines.count line := rfl
    have absorbed : line ∈ next.merged.lines ↔ line ∈ base.lines ∨ line ∈ pool.merged.lines := by
      rw [merged]
      exact Line.strictOrder.mem_insertAll base.lines pool.merged.lines line
    have present : line ∈ base.lines ↔ 0 < base.lines.count line := List.count_pos_iff.symm
    rw [absorbed, present]
    rw [ended] at moved
    constructor
    · rintro ((held | whole) | ahead)
      · right
        omega
      · exact .inl whole
      · right
        omega
    · rintro (whole | ahead)
      · exact .inl (.inr whole)
      · by_cases held : 0 < base.lines.count line
        · exact .inl (.inl held)
        · right
          omega

/-! ## Sound pools -/

def isGone : Worker → Bool
  | .ended _ => true
  | .joined => true
  | _ => false

structure Sound (holdings : List Holding) (pool : Pool) : Prop where
  depth_pos : 0 < pool.depth
  manned : pool.workers ≠ []
  uncrashed : Worker.crashed ∉ pool.workers
  fed : pool.closed = true → pool.feed = []
  drained : ∀ worker ∈ pool.workers, isGone worker = true → pool.closed = true ∧ pool.queue = []
  ascends : pool.merged.lines.Pairwise fun left right => left < right
  roles : pool.merged.roles + rolesMeter.tally pool = total rolesMeter.holding holdings
  resources :
    pool.merged.resources + resourcesMeter.tally pool = total resourcesMeter.holding holdings
  rejected :
    pool.merged.rejected + rejectedMeter.tally pool = total rejectedMeter.holding holdings
  mem_lines : ∀ line, (line ∈ pool.merged.lines ∨ 0 < (lineMeter line).tally pool) ↔
    0 < total (lineMeter line).holding holdings
  answered : ∀ answer, pool.outcome = some answer →
    answer = .ok pool.merged ∧ pool.closed = true ∧ ∀ worker ∈ pool.workers, worker = .joined

namespace Sound

variable {holdings : List Holding} {pool next : Pool}

theorem start (size : PoolSize) (holdings : List Holding) :
    Sound holdings (Pool.start size holdings) where
  depth_pos := size.depth_pos
  manned := by
    have workers := size.workers_pos
    simp only [Pool.start, ne_eq, List.replicate_eq_nil_iff]
    omega
  uncrashed member := by cases List.eq_of_mem_replicate member
  fed closed := by cases closed
  drained worker member gone := by
    rw [List.eq_of_mem_replicate member] at gone
    cases gone
  ascends := List.Pairwise.nil
  roles := by rw [Meter.tally_start]; exact Nat.zero_add _
  resources := by rw [Meter.tally_start]; exact Nat.zero_add _
  rejected := by rw [Meter.tally_start]; exact Nat.zero_add _
  mem_lines line := by rw [Meter.tally_start]; simp [Pool.start]
  answered answer given := by cases given

theorem of_stepped (sound : Sound holdings pool) (stepped : Stepped Formatter.plain pool next)
    (depth : next.depth = pool.depth) (manned : next.workers ≠ [])
    (uncrashed : Worker.crashed ∉ next.workers) (fed : next.closed = true → next.feed = [])
    (drained : ∀ worker ∈ next.workers, isGone worker = true →
      next.closed = true ∧ next.queue = [])
    (answered : ∀ answer, next.outcome = some answer →
      answer = .ok next.merged ∧ next.closed = true ∧ ∀ worker ∈ next.workers, worker = .joined) :
    Sound holdings next where
  depth_pos := depth ▸ sound.depth_pos
  manned := manned
  uncrashed := uncrashed
  fed := fed
  drained := drained
  ascends := by
    rcases rolesMeter.tally_step stepped with ⟨merged, _⟩ | ⟨base, merged, _⟩
    · rw [merged]
      exact sound.ascends
    · rw [merged]
      exact Line.strictOrder.pairwise_insertAll base.lines sound.ascends
  roles := by
    rw [rolesMeter.counted_step Compiled.roles (fun _ => rfl) (fun _ _ => rfl) stepped]
    exact sound.roles
  resources := by
    rw [resourcesMeter.counted_step Compiled.resources (fun _ => rfl) (fun _ _ => rfl) stepped]
    exact sound.resources
  rejected := by
    rw [rejectedMeter.counted_step Compiled.rejected (fun _ => rfl) (fun _ _ => rfl) stepped]
    exact sound.rejected
  mem_lines line := (line_step line stepped).trans (sound.mem_lines line)
  answered := answered

theorem of_replaced (sound : Sound holdings pool) (index : Nat) (new : Worker)
    (queue : List Holding) (merged : Compiled) (running : pool.outcome = none)
    (stepped : Stepped Formatter.plain pool
      { pool.withWorker index new with queue := queue, merged := merged })
    (whole : new ≠ .crashed)
    (shrinks : ∀ worker ∈ pool.workers, isGone worker = true → queue = [])
    (gone : isGone new = true → pool.closed = true ∧ queue = []) :
    Sound holdings { pool.withWorker index new with queue := queue, merged := merged } := by
  refine sound.of_stepped stepped rfl ?_ ?_ sound.fed ?_ ?_
  · simpa [withWorker] using sound.manned
  · intro member
    rcases List.mem_or_eq_of_mem_set member with old | same
    · exact sound.uncrashed old
    · exact whole same.symm
  · intro worker member left
    rcases List.mem_or_eq_of_mem_set member with old | rfl
    · exact ⟨(sound.drained worker old left).1, shrinks worker old left⟩
    · exact gone left
  · intro answer given
    have none_ : pool.outcome = some answer := given
    rw [running] at none_
    cases none_

theorem step (sound : Sound holdings pool) {event : Event}
    (moved : pool.step? Formatter.plain event = some next) : Sound holdings next := by
  obtain ⟨running, stepped⟩ := stepped_of_step? moved
  have empties : ∀ worker ∈ pool.workers, isGone worker = true → pool.queue = [] :=
    fun worker member left => (sound.drained worker member left).2
  have stepped' := stepped
  cases stepped with
  | sent holding feed fed room =>
      have unclosed : pool.closed ≠ true := by
        intro closed
        rw [sound.fed closed] at fed
        cases fed
      refine sound.of_stepped stepped' rfl sound.manned sound.uncrashed
        (fun closed => absurd closed unclosed) ?_ ?_
      · intro worker member left
        exact absurd (sound.drained worker member left).1 unclosed
      · intro answer given
        exact sound.answered answer given
  | closed fed unclosed =>
      refine sound.of_stepped stepped' rfl sound.manned sound.uncrashed (fun _ => fed) ?_ ?_
      · intro worker member left
        exact ⟨rfl, empties worker member left⟩
      · intro answer given
        exact ⟨(sound.answered answer given).1, rfl, (sound.answered answer given).2.2⟩
  | acquired index base found =>
      exact sound.of_replaced index _ pool.queue pool.merged running stepped'
        (by simp) empties (fun left => by cases left)
  | received index base holding queue found queued =>
      refine sound.of_replaced index _ queue pool.merged running stepped' (by simp) ?_
        (fun left => by cases left)
      intro worker member left
      have empty := empties worker member left
      rw [queued] at empty
      cases empty
  | rested index base roleId found =>
      exact sound.of_replaced index _ pool.queue pool.merged running stepped'
        (by simp) empties (fun left => by cases left)
  | formatted index base roleId resource rest line found made =>
      exact sound.of_replaced index _ pool.queue pool.merged running stepped'
        (by simp) empties (fun left => by cases left)
  | crashed index base roleId resource rest found unmade => cases unmade
  | left index base found closed empty =>
      exact sound.of_replaced index _ pool.queue pool.merged running stepped'
        (by simp) empties (fun _ => ⟨closed, empty⟩)
  | joined index base found closed =>
      have member := List.mem_of_getElem? found
      exact sound.of_replaced index _ pool.queue (pool.merged.absorb base) running stepped'
        (by simp) empties (fun _ => ⟨closed, empties _ member rfl⟩)
  | failed index found closed => exact absurd (List.mem_of_getElem? found) sound.uncrashed
  | finished closed all =>
      refine sound.of_stepped stepped' rfl sound.manned sound.uncrashed sound.fed sound.drained ?_
      intro answer given
      cases given
      exact ⟨rfl, closed, all⟩

theorem play (sound : Sound holdings pool) {events : List Event}
    (run : play? Formatter.plain events pool = some next) : Sound holdings next := by
  induction events generalizing pool with
  | nil =>
      cases run
      exact sound
  | cons event rest ih =>
      simp only [play?] at run
      obtain ⟨middle, eventRun, restRun⟩ := Option.bind_eq_some_iff.mp run
      exact ih (sound.step eventRun) restRun

/-! ## Every outcome is the policy of the holdings -/

theorem tally_eq_zero (sound : Sound holdings pool) (meter : Meter)
    (closed : pool.closed = true) (all : ∀ worker ∈ pool.workers, worker = .joined) :
    meter.tally pool = 0 := by
  obtain ⟨worker, member⟩ := List.exists_mem_of_ne_nil _ sound.manned
  have queue : pool.queue = [] := (sound.drained worker member (by rw [all worker member]; rfl)).2
  have workers : total meter.worker pool.workers = 0 := by
    refine total_eq_zero meter.worker ?_
    intro other present
    rw [all other present]
    exact meter.joined
  rw [Meter.tally, workers, queue, sound.fed closed]
  rfl

theorem outcome_isPolicyOf (sound : Sound holdings pool) {answer : Except String Compiled}
    (given : pool.outcome = some answer) :
    ∃ compiled, answer = .ok compiled ∧ IsPolicyOf holdings compiled := by
  obtain ⟨merged, closed, all⟩ := sound.answered answer given
  have nothing : ∀ meter : Meter, meter.tally pool = 0 :=
    fun meter => sound.tally_eq_zero meter closed all
  refine ⟨pool.merged, merged, sound.ascends, ?_, ?_, ?_, ?_⟩
  · intro line
    have present := sound.mem_lines line
    rw [nothing, total_line_pos] at present
    simpa using present
  · have counted := sound.roles
    rw [nothing, total_roles] at counted
    exact counted
  · have counted := sound.resources
    rw [nothing, total_resources] at counted
    exact counted
  · have counted := sound.rejected
    rw [nothing, total_rejected] at counted
    exact counted

theorem outcome_ne_error (sound : Sound holdings pool) (text : String) :
    pool.outcome ≠ some (.error text) := by
  intro outcome
  obtain ⟨_, same, _⟩ := sound.outcome_isPolicyOf outcome
  cases same

/-! ## No schedule gets stuck -/

/-- While there is no outcome some participant can move. -/
theorem exists_event (sound : Sound holdings pool) (running : pool.outcome = none) :
    ∃ event ∈ pool.events, (pool.step? Formatter.plain event).isSome = true := by
  rcases feeder_moves Formatter.plain running sound.depth_pos with moves | ⟨served, _⟩
  · exact moves
  -- Then a worker that is at work or at the queue moves, or one takes its place there.
  by_cases busy : ∃ worker ∈ pool.workers, isBusy worker = true
  · obtain ⟨worker, member, here⟩ := busy
    exact busy_moves running served member here
  · have gone : ∀ worker ∈ pool.workers, isGone worker = true := by
      intro worker member
      cases worker with
      | ended base => rfl
      | joined => rfl
      | crashed => exact absurd member sound.uncrashed
      | _ => exact absurd ⟨_, member, rfl⟩ busy
    obtain ⟨first, present⟩ := List.exists_mem_of_ne_nil _ sound.manned
    have closed := (sound.drained first present (gone first present)).1
    by_cases all : ∀ worker ∈ pool.workers, worker = .joined
    · exact all_joined_moves running closed all
    · simp only [not_forall] at all
      obtain ⟨worker, member, unjoined⟩ := all
      obtain ⟨index, found⟩ := List.mem_iff_getElem?.mp member
      have left := gone worker member
      cases worker with
      | ended base => exact worker_moves running found closed
      | joined => exact absurd rfl unjoined
      | _ => cases left

theorem runFor_outcome (fuel : Nat) (sound : Sound holdings pool) (enough : pool.work ≤ fuel) :
    ∃ compiled, (runFor Formatter.plain fuel pool).outcome = some (.ok compiled) ∧
      IsPolicyOf holdings compiled := by
  induction fuel generalizing pool with
  | zero =>
      cases given : pool.outcome with
      | none =>
          have positive : 0 < pool.work := by
            rw [work, given]
            simp
          omega
      | some answer =>
          obtain ⟨compiled, rfl, policy⟩ := sound.outcome_isPolicyOf given
          exact ⟨compiled, given, policy⟩
  | succ fuel ih =>
      cases chosen : pool.next? Formatter.plain with
      | some next =>
          obtain ⟨event, _, moved⟩ := Option.bind_eq_some_iff.mp chosen
          have less := work_step moved
          have rest := ih (sound.step moved) (by omega)
          rw [runFor, chosen]
          exact rest
      | none =>
          rw [runFor, chosen]
          cases given : pool.outcome with
          | some answer =>
              obtain ⟨compiled, rfl, policy⟩ := sound.outcome_isPolicyOf given
              exact ⟨compiled, rfl, policy⟩
          | none =>
              exfalso
              obtain ⟨event, member, able⟩ := sound.exists_event given
              have offered : (pool.nextEvent? Formatter.plain).isSome = true :=
                List.find?_isSome.mpr ⟨event, member, able⟩
              obtain ⟨first, found⟩ := Option.isSome_iff_exists.mp offered
              have moves := List.find?_some found
              rw [next?, found, Option.bind_some] at chosen
              rw [chosen] at moves
              cases moves

end Sound

/-- Some schedule of the pool ends with this policy. -/
def Yields (size : PoolSize) (feed : List Holding) (compiled : Compiled) : Prop :=
  ∃ events pool, play? Formatter.plain events (Pool.start size feed) = some pool ∧
    pool.outcome = some (.ok compiled)

theorem exists_play_runFor (formatter : Formatter) (fuel : Nat) (pool : Pool) :
    ∃ events, play? formatter events pool = some (runFor formatter fuel pool) := by
  induction fuel generalizing pool with
  | zero => exact ⟨[], rfl⟩
  | succ fuel ih =>
      rw [runFor]
      cases chosen : pool.next? formatter with
      | none => exact ⟨[], rfl⟩
      | some next =>
          obtain ⟨event, _, moved⟩ := Option.bind_eq_some_iff.mp chosen
          obtain ⟨events, run⟩ := ih next
          refine ⟨event :: events, ?_⟩
          rw [play?, moved]
          exact run

theorem yields_of_compile {size : PoolSize} {feed : List Holding} {compiled : Compiled}
    (made : compile size feed = .made compiled) : Yields size feed compiled := by
  obtain ⟨events, run⟩ :=
    exists_play_runFor Formatter.plain (Pool.start size feed).work (Pool.start size feed)
  refine ⟨events, _, run, ?_⟩
  rw [compile] at made
  split at made
  · cases made
  · split at made
    next same =>
      cases made
      exact same
    · cases made
    · cases made

theorem Yields.isPolicyOf {size : PoolSize} {feed : List Holding} {compiled : Compiled}
    (yields : Yields size feed compiled) : IsPolicyOf feed compiled := by
  obtain ⟨events, pool, run, outcome⟩ := yields
  obtain ⟨same, equal, policy⟩ := ((Sound.start size feed).play run).outcome_isPolicyOf outcome
  cases equal
  exact policy

end RoleGrants.Pool

namespace RoleGrants

theorem compile_eq_made {size : PoolSize} (room : size.isTooDeep = false)
    (holdings : List Holding) : compile size holdings = .made (policyOf holdings) := by
  obtain ⟨compiled, outcome, policy⟩ :=
    (Pool.Sound.start size holdings).runFor_outcome _ (Nat.le_refl _)
  rw [compile, room, Pool.run, outcome, policy.unique (isPolicyOf_policyOf holdings)]
  rfl

/-- The order of the holdings, the size of the pool and its schedule make no difference. -/
theorem pool_compiles_one_policy (holdings : List Holding) :
    ∃ compiled, IsPolicyOf holdings compiled ∧
      ∀ (workers depth : Nat) (arrival : List Holding), arrival.Perm holdings →
        if depth ≤ PoolSize.greatestDepth then
          compile (PoolSize.raised workers depth) arrival = .made compiled ∧
          ∀ events pool,
            Pool.play? Formatter.plain events
                (Pool.start (PoolSize.raised workers depth) arrival) = some pool →
              events.length ≤ (Pool.start (PoolSize.raised workers depth) arrival).work ∧
              (pool.outcome = none →
                ∃ event next, pool.step? Formatter.plain event = some next) ∧
              ∀ answer, pool.outcome = some answer → answer = .ok compiled
        else compile (PoolSize.raised workers depth) arrival = .aborted := by
  refine ⟨policyOf holdings, isPolicyOf_policyOf holdings, ?_⟩
  intro workers depth arrival arrives
  have onePolicy : ∀ compiled, IsPolicyOf arrival compiled → compiled = policyOf holdings :=
    fun compiled policy => policy.unique ((isPolicyOf_policyOf holdings).perm arrives)
  have limit : PoolSize.greatestDepth = 2305843009213693951 := rfl
  split
  next shallow =>
    have room : (PoolSize.raised workers depth).isTooDeep = false := by
      refine decide_eq_false ?_
      show ¬ PoolSize.greatestDepth < max depth 1
      omega
    have started := Pool.Sound.start (PoolSize.raised workers depth) arrival
    refine ⟨?_, ?_⟩
    · rw [compile_eq_made room, onePolicy _ (isPolicyOf_policyOf arrival)]
    · intro events pool run
      have sound := started.play run
      refine ⟨?_, ?_, ?_⟩
      · have bounded := Pool.length_le_work run
        omega
      · intro running
        obtain ⟨event, _, able⟩ := sound.exists_event running
        obtain ⟨next, moved⟩ := Option.isSome_iff_exists.mp able
        exact ⟨event, next, moved⟩
      · intro answer given
        obtain ⟨compiled, rfl, policy⟩ := sound.outcome_isPolicyOf given
        rw [onePolicy compiled policy]
  next deep =>
    have full : (PoolSize.raised workers depth).isTooDeep = true := by
      refine decide_eq_true ?_
      show PoolSize.greatestDepth < max depth 1
      omega
    rw [compile, full]
    rfl

/-- Two roles that arrive the other way round, one with a path that no policy file carries. -/
theorem two_roles_compile_either_way :
    ∃ compiled,
      IsPolicyOf
        [⟨"viewer", [⟨"1", "m", "GET", "/a"⟩]⟩, ⟨"editor", [⟨"2", "m", "PUT", "/a,b"⟩]⟩] compiled ∧
      compile (PoolSize.raised 0 0)
        [⟨"editor", [⟨"2", "m", "PUT", "/a,b"⟩]⟩, ⟨"viewer", [⟨"1", "m", "GET", "/a"⟩]⟩] =
          .made compiled ∧
      ∃ pool,
        Pool.play? Formatter.plain
          [.send, .acquire 0, .receive 0, .send, .format 0, .close, .format 0, .acquire 0,
            .receive 0, .format 0, .format 0, .acquire 0, .leave 0, .join 0, .finish]
          (Pool.start (PoolSize.raised 0 0)
            [⟨"editor", [⟨"2", "m", "PUT", "/a,b"⟩]⟩, ⟨"viewer", [⟨"1", "m", "GET", "/a"⟩]⟩]) =
          some pool ∧
        pool.outcome = some (.ok compiled) := by
  obtain ⟨compiled, policy, all⟩ := pool_compiles_one_policy
    [⟨"viewer", [⟨"1", "m", "GET", "/a"⟩]⟩, ⟨"editor", [⟨"2", "m", "PUT", "/a,b"⟩]⟩]
  have one := all 0 0
    [⟨"editor", [⟨"2", "m", "PUT", "/a,b"⟩]⟩, ⟨"viewer", [⟨"1", "m", "GET", "/a"⟩]⟩]
    (List.Perm.swap _ _ _)
  rw [if_pos (Nat.zero_le _)] at one
  refine ⟨compiled, policy, one.1, ?_⟩
  have played := one.2 [.send, .acquire 0, .receive 0, .send, .format 0, .close, .format 0,
    .acquire 0, .receive 0, .format 0, .format 0, .acquire 0, .leave 0, .join 0, .finish]
  have ended : ((Pool.play? Formatter.plain
      [.send, .acquire 0, .receive 0, .send, .format 0, .close, .format 0, .acquire 0,
        .receive 0, .format 0, .format 0, .acquire 0, .leave 0, .join 0, .finish]
      (Pool.start (PoolSize.raised 0 0)
        [⟨"editor", [⟨"2", "m", "PUT", "/a,b"⟩]⟩, ⟨"viewer", [⟨"1", "m", "GET", "/a"⟩]⟩])).bind
      Pool.outcome).isSome = true := by decide +kernel
  obtain ⟨answer, given⟩ := Option.isSome_iff_exists.mp ended
  obtain ⟨pool, run, outcome⟩ := Option.bind_eq_some_iff.mp given
  refine ⟨pool, run, ?_⟩
  rw [outcome, (played pool run).2.2 answer outcome]

/-- A queue that is deeper than any can be made compiles nothing, not even no holdings. -/
theorem deepest_queue_compiles_nothing :
    ¬ ∃ compiled, IsPolicyOf [] compiled ∧
      compile (PoolSize.raised 1 2305843009213693952) [] = .made compiled := by
  rintro ⟨compiled, _, made⟩
  have aborted : compile (PoolSize.raised 1 2305843009213693952) [] = .aborted := rfl
  rw [aborted] at made
  cases made

end RoleGrants
