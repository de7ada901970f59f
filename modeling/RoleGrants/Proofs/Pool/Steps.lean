import RoleGrants.Proofs.Pool.Accounting

/-! # Steps of a pool

`Stepped` lists everything that one event can do, whatever the formatter does, and
`stepped_of_step?` opens a step into it.  Every event does some of the work that
is to be done, so no schedule is longer than the work of its pool
(`length_le_work`).  Who can move is told for each participant by itself
(`worker_moves`, `busy_moves`, `feeder_moves`). -/

set_option autoImplicit false

namespace RoleGrants.Pool

def play? (formatter : Formatter) : List Event → Pool → Option Pool
  | [], pool => some pool
  | event :: rest, pool => do
      let next ← pool.step? formatter event
      play? formatter rest next

/-! ## What one event does -/

/-- Everything that a step of a pool can do, whatever its formatter does. -/
inductive Stepped (formatter : Formatter) (pool : Pool) : Pool → Prop where
  | sent (holding : Holding) (feed : List Holding) :
      pool.feed = holding :: feed → pool.queue.length < pool.depth →
      Stepped formatter pool { pool with feed := feed, queue := pool.queue ++ [holding] }
  | closed : pool.feed = [] → pool.closed = false →
      Stepped formatter pool { pool with closed := true }
  | acquired (index : Nat) (base : Compiled) :
      pool.workers[index]? = some (.waiting base) →
      Stepped formatter pool (pool.withWorker index (.receiving base))
  | received (index : Nat) (base : Compiled) (holding : Holding) (queue : List Holding) :
      pool.workers[index]? = some (.receiving base) → pool.queue = holding :: queue →
      Stepped formatter pool
        { pool.withWorker index
            (.working (Pool.received base holding) holding.roleId holding.resources) with
          queue := queue }
  | rested (index : Nat) (base : Compiled) (roleId : String) :
      pool.workers[index]? = some (.working base roleId []) →
      Stepped formatter pool (pool.withWorker index (.waiting base))
  | formatted (index : Nat) (base : Compiled) (roleId : String) (resource : Resource)
      (rest : List Resource) (line : Line) :
      pool.workers[index]? = some (.working base roleId (resource :: rest)) →
      formatter roleId resource = some line →
      Stepped formatter pool (pool.withWorker index (.working (addLine base line) roleId rest))
  | crashed (index : Nat) (base : Compiled) (roleId : String) (resource : Resource)
      (rest : List Resource) :
      pool.workers[index]? = some (.working base roleId (resource :: rest)) →
      formatter roleId resource = none →
      Stepped formatter pool (pool.withWorker index .crashed)
  | left (index : Nat) (base : Compiled) :
      pool.workers[index]? = some (.receiving base) → pool.closed = true → pool.queue = [] →
      Stepped formatter pool (pool.withWorker index (.ended base))
  | joined (index : Nat) (base : Compiled) :
      pool.workers[index]? = some (.ended base) → pool.closed = true →
      Stepped formatter pool
        { pool.withWorker index .joined with merged := pool.merged.absorb base }
  | failed (index : Nat) :
      pool.workers[index]? = some .crashed → pool.closed = true →
      Stepped formatter pool
        { pool.withWorker index .joined with outcome := some (.error crash) }
  | finished : pool.closed = true → (∀ worker ∈ pool.workers, worker = .joined) →
      Stepped formatter pool { pool with outcome := some (.ok pool.merged) }

theorem stepped_of_step? {formatter : Formatter} {pool next : Pool} {event : Event}
    (step : pool.step? formatter event = some next) :
    pool.outcome = none ∧ Stepped formatter pool next := by
  unfold step? at step
  split at step
  · simp at step
  next running =>
    refine ⟨by simpa using running, ?_⟩
    cases event with
    | send =>
        dsimp only at step
        split at step
        · simp at step
        next holding feed fed =>
          split at step
          next room =>
            cases step
            exact .sent holding feed fed room
          · simp at step
    | close =>
        dsimp only at step
        split at step
        next guard =>
          cases step
          exact .closed (by simpa using guard.1) guard.2
        · simp at step
    | acquire index =>
        dsimp only at step
        split at step
        next base found =>
          split at step
          · simp at step
          · cases step
            exact .acquired index base found
        · simp at step
    | receive index =>
        dsimp only at step
        split at step
        next base holding queue found queued =>
          cases step
          exact .received index base holding queue found queued
        · simp at step
    | format index =>
        dsimp only at step
        split at step
        next base roleId found =>
          cases step
          exact .rested index base roleId found
        next base roleId resource rest found =>
          split at step
          next line made =>
            cases step
            exact .formatted index base roleId resource rest line found made
          next unmade =>
            cases step
            exact .crashed index base roleId resource rest found unmade
        · simp at step
    | leave index =>
        dsimp only at step
        split at step
        next base found =>
          split at step
          next guard =>
            cases step
            exact .left index base found guard.1 (by simpa using guard.2)
          · simp at step
        · simp at step
    | join index =>
        dsimp only at step
        split at step
        next closed =>
          split at step
          next base found =>
            cases step
            exact .joined index base found closed
          next found =>
            cases step
            exact .failed index found closed
          · simp at step
        · simp at step
    | finish =>
        dsimp only at step
        split at step
        next guard =>
          cases step
          exact .finished guard.1 (by simpa using guard.2)
        · simp at step

/-! ## Every event does some of the work -/

theorem work_lt_of_lighter {pool : Pool} {index : Nat} {old : Worker}
    (found : pool.workers[index]? = some old) (new : Worker) (queue : List Holding)
    (merged : Compiled)
    (lighter : workerWork new + total holdingWork queue <
      workerWork old + total holdingWork pool.queue) :
    { pool.withWorker index new with queue := queue, merged := merged }.work < pool.work := by
  have changed := total_set workerWork found new
  have expanded :
      { pool.withWorker index new with queue := queue, merged := merged }.work =
        total (fun holding => holdingWork holding + 1) pool.feed + total holdingWork queue +
          total workerWork (pool.workers.set index new) + (if pool.closed then 0 else 1) +
          (if pool.outcome.isSome then 0 else 1) := rfl
  rw [expanded, work]
  omega

theorem work_step {formatter : Formatter} {pool next : Pool} {event : Event}
    (step : pool.step? formatter event = some next) : next.work < pool.work := by
  obtain ⟨running, stepped⟩ := stepped_of_step? step
  cases stepped with
  | sent holding feed fed room =>
      simp only [work, fed, total, total_append]
      omega
  | closed fed unclosed =>
      simp only [work, unclosed]
      simp
  | acquired index base found =>
      refine work_lt_of_lighter found _ pool.queue pool.merged ?_
      simp only [workerWork]
      omega
  | received index base holding queue found queued =>
      refine work_lt_of_lighter found _ queue pool.merged ?_
      simp only [workerWork, queued, total, holdingWork]
      omega
  | rested index base roleId found =>
      refine work_lt_of_lighter found _ pool.queue pool.merged ?_
      simp only [workerWork, List.length_nil]
      omega
  | formatted index base roleId resource rest line found made =>
      refine work_lt_of_lighter found _ pool.queue pool.merged ?_
      simp only [workerWork, List.length_cons]
      omega
  | crashed index base roleId resource rest found unmade =>
      refine work_lt_of_lighter found _ pool.queue pool.merged ?_
      simp only [workerWork, List.length_cons]
      omega
  | left index base found closed empty =>
      refine work_lt_of_lighter found _ pool.queue pool.merged ?_
      simp only [workerWork]
      omega
  | joined index base found closed =>
      refine work_lt_of_lighter found _ pool.queue (pool.merged.absorb base) ?_
      simp only [workerWork]
      omega
  | failed index found closed =>
      have lighter := work_lt_of_lighter found .joined pool.queue pool.merged (by
        simp only [workerWork]
        omega)
      refine Nat.lt_of_le_of_lt ?_ lighter
      simp [work, withWorker]
  | finished closed all =>
      simp only [work, running]
      simp

theorem length_le_work {formatter : Formatter} {events : List Event} {pool final : Pool}
    (run : play? formatter events pool = some final) :
    events.length + final.work ≤ pool.work := by
  induction events generalizing pool with
  | nil =>
      have same : pool = final := Option.some.inj run
      simp [same]
  | cons event rest ih =>
      simp only [play?] at run
      obtain ⟨next, eventRun, restRun⟩ := Option.bind_eq_some_iff.mp run
      have less := work_step eventRun
      have tail := ih restRun
      simp only [List.length_cons]
      omega

/-! ## Who can move -/

section Moves

variable {formatter : Formatter} {pool : Pool}

theorem mem_events {event : Event} {index : Nat} {worker : Worker}
    (found : pool.workers[index]? = some worker) (own : event ∈ workerEvents index) :
    event ∈ pool.events := by
  have inRange : index < pool.workers.length := (List.getElem?_eq_some_iff.mp found).1
  simp only [events, List.cons_append, List.mem_cons, List.mem_append, List.mem_flatMap,
    List.mem_range]
  exact .inr (.inr (.inl ⟨index, inRange, own⟩))

/-- A worker at work can always go on; one at the queue can unless it is empty and open, and
one that has left or crashed can be joined once the queue is closed. -/
theorem worker_moves (running : pool.outcome = none) {index : Nat} {worker : Worker}
    (found : pool.workers[index]? = some worker)
    (able : match worker with
      | .working _ _ _ => True
      | .receiving _ => pool.queue ≠ [] ∨ pool.closed = true
      | .waiting _ => pool.workers.any Worker.isReceiving = false
      | .ended _ => pool.closed = true
      | .crashed => pool.closed = true
      | .joined => False) :
    ∃ event ∈ pool.events, (pool.step? formatter event).isSome = true := by
  cases worker with
  | working base roleId rest =>
      refine ⟨.format index, mem_events found (by simp [workerEvents]), ?_⟩
      cases rest with
      | nil => simp [step?, running, found]
      | cons resource rest =>
          cases made : formatter roleId resource <;> simp [step?, running, found, made]
  | receiving base =>
      cases queued : pool.queue with
      | nil =>
          have closed : pool.closed = true := able.resolve_left fun full => full queued
          refine ⟨.leave index, mem_events found (by simp [workerEvents]), ?_⟩
          simp [step?, running, found, queued, closed]
      | cons holding queue =>
          refine ⟨.receive index, mem_events found (by simp [workerEvents]), ?_⟩
          simp [step?, running, found, queued]
  | waiting base =>
      refine ⟨.acquire index, mem_events found (by simp [workerEvents]), ?_⟩
      simp [step?, running, found, able]
  | ended base =>
      refine ⟨.join index, mem_events found (by simp [workerEvents]), ?_⟩
      simp [step?, running, found, able]
  | crashed =>
      refine ⟨.join index, mem_events found (by simp [workerEvents]), ?_⟩
      simp [step?, running, found, able]
  | joined => exact absurd able id

def isBusy : Worker → Bool
  | .waiting _ => true
  | .receiving _ => true
  | .working _ _ _ => true
  | _ => false

/-- With something in the queue, or nothing to come any more, one busy worker is enough: it
moves, or the one before it at the queue does. -/
theorem busy_moves (running : pool.outcome = none)
    (served : pool.queue ≠ [] ∨ pool.closed = true) {worker : Worker}
    (member : worker ∈ pool.workers) (busy : isBusy worker = true) :
    ∃ event ∈ pool.events, (pool.step? formatter event).isSome = true := by
  by_cases taken : pool.workers.any Worker.isReceiving = true
  · obtain ⟨receiver, present, receives⟩ := List.any_eq_true.mp taken
    obtain ⟨index, found⟩ := List.mem_iff_getElem?.mp present
    cases receiver with
    | receiving base => exact worker_moves running found served
    | _ => cases receives
  · obtain ⟨index, found⟩ := List.mem_iff_getElem?.mp member
    have open_ : pool.workers.any Worker.isReceiving = false := by simpa using taken
    cases worker with
    | waiting base => exact worker_moves running found open_
    | receiving base => exact worker_moves running found served
    | working base roleId rest => exact worker_moves running found trivial
    | _ => cases busy

theorem feeder_moves (formatter : Formatter) (running : pool.outcome = none)
    (depth_pos : 0 < pool.depth) :
    (∃ event ∈ pool.events, (pool.step? formatter event).isSome = true) ∨
      (pool.queue ≠ [] ∨ pool.closed = true) ∧
        (pool.closed = true ∨ pool.feed ≠ [] ∧ pool.depth ≤ pool.queue.length) := by
  by_cases closed : pool.closed = true
  · exact .inr ⟨.inr closed, .inl closed⟩
  cases fed : pool.feed with
  | nil =>
      refine .inl ⟨.close, by simp [events], ?_⟩
      simp [step?, running, fed, closed]
  | cons holding feed =>
      by_cases room : pool.queue.length < pool.depth
      · refine .inl ⟨.send, by simp [events], ?_⟩
        simp [step?, running, fed, room]
      · have full : pool.depth ≤ pool.queue.length := Nat.le_of_not_lt room
        refine .inr ⟨.inl ?_, .inr ⟨by simp, full⟩⟩
        intro empty
        rw [empty, List.length_nil] at full
        omega

theorem all_joined_moves (running : pool.outcome = none) (closed : pool.closed = true)
    (all : ∀ worker ∈ pool.workers, worker = .joined) :
    ∃ event ∈ pool.events, (pool.step? formatter event).isSome = true := by
  refine ⟨.finish, by simp [events], ?_⟩
  have joined : pool.workers.all (· == .joined) = true := by simpa using all
  simp [step?, running, closed, joined]

end Moves

end RoleGrants.Pool
