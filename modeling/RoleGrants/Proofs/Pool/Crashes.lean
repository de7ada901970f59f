import Mathlib.Data.List.Infix
import RoleGrants.Proofs.Pool.Schedules

/-! # Workers that crash

A formatter that crashes on a resource takes its worker with it.  The queue stays open
to the feeder all the same, so that the feeder waits for good once every worker has
crashed, the queue is full and something is still to come (`Jammed`).  That is the only
way in which a pool gets stuck (`isStuck_iff_jammed`), and it can come to it exactly if
as many holdings as there are workers crash one, with more behind them than the queue
takes (`pool_hangs_exactly_when_overloaded`).

Each crash is accounted for by a holding that has been received: `crashWeight` says how
many a worker stands for. -/

set_option autoImplicit false

namespace RoleGrants

def Holding.crashes (formatter : Formatter) (holding : Holding) : Bool :=
  holding.resources.any fun resource => (formatter holding.roleId resource).isNone

theorem Holding.crashes_iff (formatter : Formatter) (holding : Holding) :
    holding.crashes formatter = true ↔
      ∃ resource ∈ holding.resources, formatter holding.roleId resource = none := by
  simp [crashes]

namespace Pool

def IsStuck (formatter : Formatter) (pool : Pool) : Prop :=
  pool.outcome = none ∧ ∀ event, pool.step? formatter event = none

def Reaches (formatter : Formatter) (pool final : Pool) : Prop :=
  ∃ events, play? formatter events pool = some final

/-- Some schedule gets stuck. -/
def Hangs (formatter : Formatter) (size : PoolSize) (feed : List Holding) : Prop :=
  ∃ final, Reaches formatter (start size feed) final ∧ final.IsStuck formatter

/-- What the workers have received of the holdings: all but what is queued or still to be fed. -/
def taken (holdings : List Holding) (pool : Pool) : List Holding :=
  holdings.take (holdings.length - (pool.queue.length + pool.feed.length))

/-- A worker has received a resource that the formatter crashes on. -/
def Faulted (formatter : Formatter) (holdings : List Holding) (pool : Pool) : Prop :=
  ∃ holding ∈ pool.taken holdings, ∃ resource ∈ holding.resources,
    formatter holding.roleId resource = none

/-- Every worker has crashed, and the feeder waits for room in the queue. -/
structure Jammed (pool : Pool) : Prop where
  crashed : ∀ worker ∈ pool.workers, worker = .crashed
  full : pool.depth ≤ pool.queue.length
  waiting : pool.feed ≠ []
  unclosed : pool.closed = false

/-! ## What is accounted for -/

def crashWeight (formatter : Formatter) : Worker → Nat
  | .crashed => 1
  | .working _ roleId rest => if (Holding.mk roleId rest).crashes formatter then 1 else 0
  | _ => 0

theorem crashWeight_le_one (formatter : Formatter) (worker : Worker) :
    crashWeight formatter worker ≤ 1 := by
  unfold crashWeight
  split
  · exact Nat.le_refl 1
  · split <;> omega
  · omega

theorem crashWeight_received (formatter : Formatter) (base : Compiled) (holding : Holding) :
    crashWeight formatter (.working base holding.roleId holding.resources) =
      if holding.crashes formatter then 1 else 0 := rfl

theorem crashWeight_formatted {formatter : Formatter} {roleId : String} {resource : Resource}
    {line : Line} (made : formatter roleId resource = some line) (base other : Compiled)
    (rest : List Resource) :
    crashWeight formatter (.working other roleId rest) =
      crashWeight formatter (.working base roleId (resource :: rest)) := by
  simp [crashWeight, Holding.crashes, made]

theorem crashWeight_crashing {formatter : Formatter} {roleId : String} {resource : Resource}
    (unmade : formatter roleId resource = none) (base : Compiled) (rest : List Resource) :
    crashWeight formatter (.working base roleId (resource :: rest)) = 1 := by
  simp [crashWeight, Holding.crashes, unmade]

theorem total_le_length {α : Type} {weight : α → Nat} (light : ∀ item, weight item ≤ 1)
    (items : List α) : total weight items ≤ items.length := by
  induction items with
  | nil => exact Nat.le_refl 0
  | cons item rest ih =>
      have one := light item
      simp only [total, List.length_cons]
      omega

theorem total_eq_length {α : Type} {weight : α → Nat} {items : List α}
    (heavy : ∀ item ∈ items, weight item = 1) : total weight items = items.length := by
  induction items with
  | nil => rfl
  | cons item rest ih =>
      obtain ⟨first, others⟩ := List.forall_mem_cons.mp heavy
      simp only [total, List.length_cons, first, ih others]
      omega

/-- What all pools have in common that are reached with these holdings: the workers that have
crashed or are about to are as many as the holdings received that crash one. -/
structure Accounts (formatter : Formatter) (size : PoolSize) (holdings : List Holding)
    (pool : Pool) : Prop where
  depth : pool.depth = size.depth
  staffed : pool.workers.length = size.workers
  fed : pool.closed = true → pool.feed = []
  order : holdings = pool.taken holdings ++ (pool.queue ++ pool.feed)
  crashes : pool.outcome = none → total (crashWeight formatter) pool.workers =
    (pool.taken holdings).countP (Holding.crashes formatter)
  left : pool.outcome = none → ∀ worker ∈ pool.workers, isGone worker = true →
    pool.closed = true ∧ pool.queue = []
  answered : ∀ answer, pool.outcome = some answer →
    (answer = .error crash ∧ pool.Faulted formatter holdings) ∨
      (∃ compiled, answer = .ok compiled) ∧ ¬ pool.Faulted formatter holdings

theorem faulted_iff (formatter : Formatter) (holdings : List Holding) (pool : Pool) :
    pool.Faulted formatter holdings ↔
      0 < (pool.taken holdings).countP (Holding.crashes formatter) := by
  rw [List.countP_pos_iff]
  simp only [Faulted, Holding.crashes_iff]

theorem taken_eq {holdings first : List Holding} {pool : Pool}
    (order : holdings = first ++ (pool.queue ++ pool.feed)) : pool.taken holdings = first := by
  have length := congrArg List.length order
  simp only [List.length_append] at length
  have count : holdings.length - (pool.queue.length + pool.feed.length) = first.length := by omega
  rw [taken, count, order, List.take_left]

namespace Accounts

variable {formatter : Formatter} {size : PoolSize} {holdings : List Holding} {pool next : Pool}

theorem of_running (first : List Holding) (depth : next.depth = size.depth)
    (staffed : next.workers.length = size.workers) (fed : next.closed = true → next.feed = [])
    (order : holdings = first ++ (next.queue ++ next.feed)) (running : next.outcome = none)
    (crashes : total (crashWeight formatter) next.workers =
      first.countP (Holding.crashes formatter))
    (left : ∀ worker ∈ next.workers, isGone worker = true →
      next.closed = true ∧ next.queue = []) :
    Accounts formatter size holdings next where
  depth := depth
  staffed := staffed
  fed := fed
  order := by rwa [taken_eq order]
  crashes _ := by rwa [taken_eq order]
  left _ := left
  answered answer given := by
    rw [running] at given
    cases given

theorem start (formatter : Formatter) (size : PoolSize) (holdings : List Holding) :
    Accounts formatter size holdings (Pool.start size holdings) := by
  refine of_running [] rfl List.length_replicate (fun closed => by cases closed) rfl rfl
    (total_replicate (crashWeight formatter) size.workers (.waiting {}) rfl) ?_
  intro worker member gone
  rw [List.eq_of_mem_replicate member] at gone
  cases gone

theorem of_replaced (accounts : Accounts formatter size holdings pool)
    (running : pool.outcome = none) {index : Nat} {old : Worker}
    (found : pool.workers[index]? = some old) (new : Worker) (merged : Compiled)
    (same : crashWeight formatter new = crashWeight formatter old)
    (gone : isGone new = true → pool.closed = true ∧ pool.queue = []) :
    Accounts formatter size holdings { pool.withWorker index new with merged := merged } := by
  have changed := total_set (crashWeight formatter) found new
  have counted := accounts.crashes running
  refine of_running (pool.taken holdings) accounts.depth ?_ accounts.fed accounts.order running
    ?_ ?_
  · exact (List.length_set).trans accounts.staffed
  · change total (crashWeight formatter) (pool.workers.set index new) = _
    omega
  · intro worker member left
    rcases List.mem_or_eq_of_mem_set member with stays | rfl
    · exact accounts.left running worker stays left
    · exact gone left

theorem of_answered (accounts : Accounts formatter size holdings pool) (workers : List Worker)
    (staffed : workers.length = size.workers) {answer : Except String Compiled}
    (right : (answer = .error crash ∧ pool.Faulted formatter holdings) ∨
      (∃ compiled, answer = .ok compiled) ∧ ¬ pool.Faulted formatter holdings) :
    Accounts formatter size holdings
      { pool with workers := workers, outcome := some answer } where
  depth := accounts.depth
  staffed := staffed
  fed := accounts.fed
  order := accounts.order
  crashes running := by cases running
  left running := by cases running
  answered other given := by
    cases given
    exact right

theorem step (accounts : Accounts formatter size holdings pool) {event : Event}
    (moved : pool.step? formatter event = some next) :
    Accounts formatter size holdings next := by
  -- A crash is counted when its holding is received; formatting up to it changes no weight.
  obtain ⟨running, stepped⟩ := stepped_of_step? moved
  have counted := accounts.crashes running
  have gone := accounts.left running
  cases stepped with
  | sent holding feed fed room =>
      have unclosed : pool.closed ≠ true := by
        intro closed
        rw [accounts.fed closed] at fed
        cases fed
      refine of_running (pool.taken holdings) accounts.depth accounts.staffed
        (fun closed => absurd closed unclosed) ?_ running counted ?_
      · rw [List.append_assoc, List.singleton_append, ← fed]
        exact accounts.order
      · intro worker member left
        exact absurd (gone worker member left).1 unclosed
  | closed fed unclosed =>
      refine of_running (pool.taken holdings) accounts.depth accounts.staffed (fun _ => fed)
        accounts.order running counted ?_
      intro worker member left
      exact ⟨rfl, (gone worker member left).2⟩
  | acquired index base found =>
      exact accounts.of_replaced running found _ pool.merged rfl (fun left => by cases left)
  | received index base holding queue found queued =>
      have order := accounts.order
      rw [queued] at order
      have changed := total_set (crashWeight formatter) found
        (.working (Pool.received base holding) holding.roleId holding.resources)
      have idle : crashWeight formatter (.receiving base) = 0 := rfl
      rw [crashWeight_received, idle] at changed
      refine of_running (pool.taken holdings ++ [holding]) accounts.depth ?_ accounts.fed
        ?_ running ?_ ?_
      · exact (List.length_set).trans accounts.staffed
      · rw [List.append_assoc]
        exact order
      · rw [List.countP_append, List.countP_singleton]
        change total (crashWeight formatter) (pool.workers.set index _) = _
        omega
      · intro worker member left
        rcases List.mem_or_eq_of_mem_set member with stays | rfl
        · have empty := (gone worker stays left).2
          rw [queued] at empty
          cases empty
        · cases left
  | rested index base roleId found =>
      exact accounts.of_replaced running found _ pool.merged rfl (fun left => by cases left)
  | formatted index base roleId resource rest line found made =>
      exact accounts.of_replaced running found _ pool.merged (crashWeight_formatted made base _ rest)
        (fun left => by cases left)
  | crashed index base roleId resource rest found unmade =>
      exact accounts.of_replaced running found _ pool.merged
        (crashWeight_crashing unmade base rest).symm (fun left => by cases left)
  | left index base found closed empty =>
      exact accounts.of_replaced running found _ pool.merged rfl (fun _ => ⟨closed, empty⟩)
  | joined index base found closed =>
      have empty := (gone _ (List.mem_of_getElem? found) rfl).2
      exact accounts.of_replaced running found _ (pool.merged.absorb base) rfl
        (fun _ => ⟨closed, empty⟩)
  | failed index found closed =>
      refine accounts.of_answered (pool.workers.set index .joined) ?_ (.inl ⟨rfl, ?_⟩)
      · exact (List.length_set).trans accounts.staffed
      · have changed := total_set (crashWeight formatter) found .joined
        have lost : crashWeight formatter .crashed = 1 := rfl
        have past : crashWeight formatter .joined = 0 := rfl
        rw [faulted_iff]
        omega
  | finished closed all =>
      refine accounts.of_answered pool.workers accounts.staffed (.inr ⟨⟨pool.merged, rfl⟩, ?_⟩)
      have whole : total (crashWeight formatter) pool.workers = 0 := by
        refine total_eq_zero (crashWeight formatter) ?_
        intro worker member
        rw [all worker member]
        rfl
      rw [faulted_iff]
      omega

theorem play (accounts : Accounts formatter size holdings pool) {events : List Event}
    (run : play? formatter events pool = some next) : Accounts formatter size holdings next := by
  induction events generalizing pool with
  | nil =>
      cases run
      exact accounts
  | cons event rest ih =>
      simp only [play?] at run
      obtain ⟨middle, eventRun, restRun⟩ := Option.bind_eq_some_iff.mp run
      exact ih (accounts.step eventRun) restRun

end Accounts

/-! ## Where a pool gets stuck -/

theorem isStuck_of_jammed {formatter : Formatter} {pool : Pool} (running : pool.outcome = none)
    (jammed : pool.Jammed) : pool.IsStuck formatter := by
  refine ⟨running, ?_⟩
  intro event
  cases moved : pool.step? formatter event with
  | none => rfl
  | some next =>
      have crashed : ∀ {index : Nat} {worker : Worker}, pool.workers[index]? = some worker →
          worker = .crashed :=
        fun found => jammed.crashed _ (List.mem_of_getElem? found)
      have open_ : pool.closed ≠ true := by simp [jammed.unclosed]
      obtain ⟨_, stepped⟩ := stepped_of_step? moved
      cases stepped with
      | sent holding feed fed room => exact absurd jammed.full (Nat.not_le_of_lt room)
      | closed fed unclosed => exact absurd fed jammed.waiting
      | acquired index base found => cases crashed found
      | received index base holding queue found queued => cases crashed found
      | rested index base roleId found => cases crashed found
      | formatted index base roleId resource rest line found made => cases crashed found
      | crashed index base roleId resource rest found unmade => cases crashed found
      | left index base found closed empty => cases crashed found
      | joined index base found closed => cases crashed found
      | failed index found closed => exact absurd closed open_
      | finished closed all => exact absurd closed open_

namespace Accounts

variable {formatter : Formatter} {size : PoolSize} {holdings : List Holding} {pool : Pool}

theorem jammed_of_isStuck (accounts : Accounts formatter size holdings pool)
    (stuck : pool.IsStuck formatter) : pool.Jammed := by
  obtain ⟨running, still⟩ := stuck
  have unmoved : ¬ ∃ event ∈ pool.events, (pool.step? formatter event).isSome = true := by
    rintro ⟨event, _, able⟩
    rw [still event] at able
    cases able
  have depth_pos : 0 < pool.depth := accounts.depth ▸ size.depth_pos
  obtain ⟨served, fed⟩ :=
    (feeder_moves formatter running depth_pos).resolve_left unmoved
  have idle : ∀ worker ∈ pool.workers, isBusy worker = false := by
    intro worker member
    by_contra busy
    exact unmoved (busy_moves running served member (by simpa using busy))
  -- Behind a closed queue every worker that has ended can be joined, and then the pool itself ends.
  have unclosed : pool.closed ≠ true := by
    intro closed
    refine unmoved (all_joined_moves running closed ?_)
    intro worker member
    obtain ⟨index, found⟩ := List.mem_iff_getElem?.mp member
    have rests := idle worker member
    cases worker with
    | ended base => exact absurd (worker_moves running found closed) unmoved
    | crashed => exact absurd (worker_moves running found closed) unmoved
    | joined => rfl
    | _ => cases rests
  obtain ⟨waiting, full⟩ := fed.resolve_left unclosed
  refine ⟨?_, full, waiting, by simpa using unclosed⟩
  intro worker member
  have rests := idle worker member
  cases worker with
  | crashed => rfl
  | ended base => exact absurd (accounts.left running _ member rfl).1 unclosed
  | joined => exact absurd (accounts.left running _ member rfl).1 unclosed
  | _ => cases rests

theorem isStuck_iff_jammed (accounts : Accounts formatter size holdings pool)
    (running : pool.outcome = none) : pool.IsStuck formatter ↔ pool.Jammed :=
  ⟨accounts.jammed_of_isStuck, isStuck_of_jammed running⟩

/-- Behind the holdings that took all the workers with them there are too many for the queue. -/
theorem overloaded_of_jammed (accounts : Accounts formatter size holdings pool)
    (running : pool.outcome = none) (jammed : pool.Jammed) :
    size.workers ≤ (holdings.take (holdings.length - (size.depth + 1))).countP
      (Holding.crashes formatter) := by
  have counted := accounts.crashes running
  have all : total (crashWeight formatter) pool.workers = pool.workers.length := by
    refine total_eq_length ?_
    intro worker member
    rw [jammed.crashed worker member]
    rfl
  have fed := List.length_pos_iff.mpr jammed.waiting
  have full := jammed.full
  rw [accounts.depth] at full
  have within : (pool.taken holdings).Sublist
      (holdings.take (holdings.length - (size.depth + 1))) := by
    refine List.IsPrefix.sublist (List.take_isPrefix_take.mpr (.inl ?_))
    omega
  calc size.workers = pool.workers.length := accounts.staffed.symm
    _ = (pool.taken holdings).countP (Holding.crashes formatter) := by rw [← all, counted]
    _ ≤ _ := within.countP_le

end Accounts

/-! ## A schedule that gets stuck -/

theorem play?_append {formatter : Formatter} (events others : List Event) (pool : Pool) :
    play? formatter (events ++ others) pool =
      (play? formatter events pool).bind (play? formatter others) := by
  induction events generalizing pool with
  | nil => rfl
  | cons event rest ih =>
      simp only [List.cons_append, play?, Option.bind_eq_bind]
      rw [Option.bind_assoc]
      exact congrArg _ (funext ih)

namespace Reaches

variable {formatter : Formatter} {pool middle final : Pool}

theorem refl (formatter : Formatter) (pool : Pool) : Reaches formatter pool pool :=
  ⟨[], rfl⟩

theorem trans (first : Reaches formatter pool middle) (second : Reaches formatter middle final) :
    Reaches formatter pool final := by
  obtain ⟨events, run⟩ := first
  obtain ⟨others, onward⟩ := second
  refine ⟨events ++ others, ?_⟩
  rw [play?_append, run]
  exact onward

theorem head (event : Event) (moved : pool.step? formatter event = some middle)
    (onward : Reaches formatter middle final) : Reaches formatter pool final := by
  obtain ⟨events, run⟩ := onward
  refine ⟨event :: events, ?_⟩
  simp only [play?, moved]
  exact run

theorem filled (count : Nat) (running : pool.outcome = none) (enough : count ≤ pool.feed.length)
    (room : pool.queue.length + count ≤ pool.depth) :
    Reaches formatter pool { pool with
      feed := pool.feed.drop count
      queue := pool.queue ++ pool.feed.take count } := by
  induction count generalizing pool with
  | zero =>
      simp only [List.drop_zero, List.take_zero, List.append_nil]
      exact refl formatter pool
  | succ count ih =>
      cases fed : pool.feed with
      | nil =>
          rw [fed] at enough
          cases enough
      | cons holding feed =>
          rw [fed, List.length_cons] at enough
          have open_ : pool.queue.length < pool.depth := by omega
          have sent : pool.step? formatter .send =
              some { pool with feed := feed, queue := pool.queue ++ [holding] } := by
            simp [step?, running, fed, open_]
          refine head .send sent ?_
          have onward := @ih { pool with feed := feed, queue := pool.queue ++ [holding] } running
            (by simpa using enough) (by simp; omega)
          simpa using onward

theorem formatted (formatter : Formatter) (running : pool.outcome = none) {index : Nat}
    {base : Compiled} {roleId : String} {rest : List Resource}
    (found : pool.workers[index]? = some (.working base roleId rest)) :
    ∃ made, Reaches formatter pool (pool.withWorker index
      (if (Holding.mk roleId rest).crashes formatter then .crashed else .waiting made)) := by
  induction rest generalizing pool base with
  | nil =>
      refine ⟨base, head (.format index) ?_ (refl formatter _)⟩
      simp [step?, running, found, Holding.crashes]
  | cons resource rest ih =>
      cases made : formatter roleId resource with
      | none =>
          refine ⟨base, head (.format index) ?_ (refl formatter _)⟩
          simp [step?, running, found, made, Holding.crashes]
      | some line =>
          have moved : pool.step? formatter (.format index) =
              some (pool.withWorker index (.working (addLine base line) roleId rest)) := by
            simp [step?, running, found, made]
          have inRange : index < pool.workers.length := (List.getElem?_eq_some_iff.mp found).1
          have goesOn : (pool.withWorker index
              (.working (addLine base line) roleId rest)).workers[index]? =
              some (.working (addLine base line) roleId rest) := List.getElem?_set_self inRange
          obtain ⟨part, onward⟩ := ih (by exact running) goesOn
          refine ⟨part, head (.format index) moved ?_⟩
          have same : (Holding.mk roleId (resource :: rest)).crashes formatter =
              (Holding.mk roleId rest).crashes formatter := by
            simp [Holding.crashes, made]
          rw [same]
          simpa [withWorker] using onward

end Reaches

/-- Nothing is on its way: each worker waits for a holding or has crashed. -/
structure Rested (pool : Pool) : Prop where
  running : pool.outcome = none
  unclosed : pool.closed = false
  empty : pool.queue = []
  resting : ∀ worker ∈ pool.workers, (∃ base, worker = .waiting base) ∨ worker = .crashed

namespace Rested

variable {formatter : Formatter} {pool : Pool}

theorem serves (formatter : Formatter) (rested : pool.Rested) (depth_pos : 0 < pool.depth)
    {index : Nat} {base : Compiled} (found : pool.workers[index]? = some (.waiting base))
    {holding : Holding} {feed : List Holding} (fed : pool.feed = holding :: feed) :
    ∃ made, Reaches formatter pool { pool.withWorker index
      (if holding.crashes formatter then .crashed else .waiting made) with feed := feed } := by
  have running := rested.running
  have inRange : index < pool.workers.length := (List.getElem?_eq_some_iff.mp found).1
  have free : pool.workers.any Worker.isReceiving = false := by
    rw [List.any_eq_false]
    intro worker member
    rcases rested.resting worker member with ⟨part, rfl⟩ | rfl
    · simp [Worker.isReceiving]
    · simp [Worker.isReceiving]
  have sent : pool.step? formatter .send =
      some { pool with feed := feed, queue := [holding] } := by
    simp [step?, running, fed, rested.empty, depth_pos]
  have acquired : { pool with feed := feed, queue := [holding] }.step? formatter (.acquire index) =
      some { pool.withWorker index (.receiving base) with feed := feed, queue := [holding] } := by
    simp [step?, running, found, free, withWorker]
  have received : { pool.withWorker index (.receiving base) with
        feed := feed, queue := [holding] }.step? formatter (.receive index) =
      some { pool.withWorker index
        (.working (Pool.received base holding) holding.roleId holding.resources) with
          feed := feed } := by
    simp [step?, running, withWorker, inRange, Pool.received, rested.empty]
  have works : { pool.withWorker index
      (.working (Pool.received base holding) holding.roleId holding.resources) with
        feed := feed }.workers[index]? =
      some (.working (Pool.received base holding) holding.roleId holding.resources) :=
    List.getElem?_set_self inRange
  obtain ⟨made, worked⟩ := Reaches.formatted formatter (by exact running) works
  refine ⟨made, .head .send sent (.head (.acquire index) acquired
    (.head (.receive index) received ?_))⟩
  simpa [withWorker] using worked

theorem served (rested : pool.Rested) (index : Nat) (made : Compiled) (lost : Bool)
    (feed : List Holding) :
    { pool.withWorker index (if lost then .crashed else .waiting made) with
      feed := feed }.Rested where
  running := rested.running
  unclosed := rested.unclosed
  empty := rested.empty
  resting worker member := by
    rcases List.mem_or_eq_of_mem_set member with stays | rfl
    · exact rested.resting worker stays
    · cases lost
      · exact .inl ⟨made, rfl⟩
      · exact .inr rfl

theorem jams (rested : pool.Rested) (crashed : ∀ worker ∈ pool.workers, worker = .crashed)
    (behind : pool.depth + 1 ≤ pool.feed.length) :
    ∃ final, Reaches formatter pool final ∧ final.IsStuck formatter := by
  have room : pool.queue.length + pool.depth ≤ pool.depth := by simp [rested.empty]
  refine ⟨_, Reaches.filled pool.depth rested.running (by omega) room,
    isStuck_of_jammed rested.running ⟨crashed, ?_, ?_, rested.unclosed⟩⟩
  · simp only [List.length_append, List.length_take]
    omega
  · rw [ne_eq, List.drop_eq_nil_iff]
    omega

theorem hangs (rested : pool.Rested) (depth_pos : 0 < pool.depth)
    (behind : pool.depth + 1 ≤ pool.feed.length)
    (doomed : pool.workers.length ≤ total (crashWeight formatter) pool.workers +
      (pool.feed.take (pool.feed.length - (pool.depth + 1))).countP (Holding.crashes formatter)) :
    ∃ final, Reaches formatter pool final ∧ final.IsStuck formatter := by
  induction fed : pool.feed generalizing pool with
  | nil =>
      rw [fed] at behind
      cases behind
  | cons holding feed ih =>
      by_cases crashed : ∀ worker ∈ pool.workers, worker = .crashed
      · exact rested.jams crashed behind
      simp only [not_forall] at crashed
      obtain ⟨worker, member, alive⟩ := crashed
      obtain ⟨base, rfl⟩ := (rested.resting worker member).resolve_right alive
      obtain ⟨index, found⟩ := List.mem_iff_getElem?.mp member
      have weight : crashWeight formatter (.waiting base) = 0 := rfl
      -- A worker is left to crash, so that some of the feed is still meant for it.
      have short : total (crashWeight formatter) pool.workers < pool.workers.length := by
        have changed := total_set (crashWeight formatter) found .crashed
        have bound := total_le_length (crashWeight_le_one formatter)
          (pool.workers.set index .crashed)
        have lost : crashWeight formatter .crashed = 1 := rfl
        rw [List.length_set] at bound
        omega
      rw [fed, List.length_cons] at behind doomed
      have more : pool.depth + 1 ≤ feed.length := by
        by_contra few
        have none : feed.length + 1 - (pool.depth + 1) = 0 := by omega
        rw [none, List.take_zero, List.countP_nil] at doomed
        omega
      have meant : feed.length + 1 - (pool.depth + 1) = feed.length - (pool.depth + 1) + 1 := by
        omega
      rw [meant, List.take_succ_cons, List.countP_cons] at doomed
      obtain ⟨made, first⟩ := rested.serves formatter depth_pos found fed
      have changed := total_set (crashWeight formatter) found
        (if holding.crashes formatter then .crashed else .waiting made)
      have gained : crashWeight formatter
          (if holding.crashes formatter then .crashed else .waiting made) =
            if holding.crashes formatter then 1 else 0 := by
        split <;> rfl
      have rest := ih (rested.served index made (holding.crashes formatter) feed) depth_pos more
        (by
          simp only [withWorker, List.length_set]
          omega) rfl
      obtain ⟨final, onward, stuck⟩ := rest
      exact ⟨final, first.trans onward, stuck⟩

end Rested

theorem rested_start (size : PoolSize) (holdings : List Holding) :
    (start size holdings).Rested where
  running := rfl
  unclosed := rfl
  empty := rfl
  resting _ member := .inl ⟨{}, List.eq_of_mem_replicate member⟩

theorem hangs_iff_overloaded (formatter : Formatter) (size : PoolSize) (holdings : List Holding) :
    Hangs formatter size holdings ↔
      size.workers ≤ (holdings.take (holdings.length - (size.depth + 1))).countP
        (Holding.crashes formatter) := by
  constructor
  · rintro ⟨final, ⟨events, run⟩, stuck⟩
    have accounts := (Accounts.start formatter size holdings).play run
    exact accounts.overloaded_of_jammed stuck.1 (accounts.jammed_of_isStuck stuck)
  · intro overloaded
    have some : 0 < (holdings.take (holdings.length - (size.depth + 1))).countP
        (Holding.crashes formatter) := Nat.lt_of_lt_of_le size.workers_pos overloaded
    have within : (holdings.take (holdings.length - (size.depth + 1))).countP
        (Holding.crashes formatter) ≤ (holdings.take (holdings.length - (size.depth + 1))).length :=
      List.countP_le_length
    rw [List.length_take] at within
    refine (rested_start size holdings).hangs size.depth_pos ?_ ?_
    · change size.depth + 1 ≤ holdings.length
      omega
    · simpa [start] using Nat.le_add_left_of_le overloaded

end Pool

open Pool

/-- Whether a pool can get stuck is told by its size and by which of the holdings crash a worker:
as many as there are workers do, even with the last ones left out of account that the queue and
the feeder keep.  No schedule goes on for ever, and one that comes to an answer fails exactly if
a resource that some worker received made the formatter crash. -/
theorem pool_hangs_exactly_when_overloaded (formatter : Formatter) (size : PoolSize)
    (holdings : List Holding) :
    (Pool.Hangs formatter size holdings ↔
      size.workers ≤ (holdings.take (holdings.length - (size.depth + 1))).countP
        (Holding.crashes formatter)) ∧
    ∀ events pool, play? formatter events (start size holdings) = some pool →
      events.length ≤ (start size holdings).work ∧
      ∀ answer, pool.outcome = some answer →
        (answer = .error crash ∧ pool.Faulted formatter holdings) ∨
          (∃ compiled, answer = .ok compiled) ∧ ¬ pool.Faulted formatter holdings := by
  refine ⟨hangs_iff_overloaded formatter size holdings, ?_⟩
  intro events pool run
  have bounded := length_le_work run
  have accounts := (Accounts.start formatter size holdings).play run
  exact ⟨by omega, accounts.answered⟩

def crashingOn (roleId : String) : Formatter := fun holder resource =>
  if holder = roleId then none else some (Line.ofResource holder resource)

def threeHoldings : List Holding :=
  ["editor", "viewer", "auditor"].map fun roleId =>
    ⟨roleId, [{ id := "1", menuId := "m", method := "GET", path := "/a" }]⟩

def deserted : Pool :=
  { start (.raised 1 1) threeHoldings with
    feed := threeHoldings.drop 2
    queue := (threeHoldings.drop 1).take 1
    workers := [.crashed] }

theorem crashed_worker_leaves_the_feeder_waiting :
    ¬ ∀ events pool,
      play? (crashingOn "editor") events (start (.raised 1 1) threeHoldings) = some pool →
        pool.outcome = none → ∃ event next, pool.step? (crashingOn "editor") event = some next := by
  intro lively
  have run : play? (crashingOn "editor") [.send, .acquire 0, .receive 0, .format 0, .send]
      (start (.raised 1 1) threeHoldings) = some deserted := rfl
  have jammed : deserted.Jammed := ⟨by simp [deserted], by decide, by decide, rfl⟩
  obtain ⟨event, next, moved⟩ := lively _ deserted run rfl
  rw [(isStuck_of_jammed rfl jammed).2 event] at moved
  cases moved

end RoleGrants
