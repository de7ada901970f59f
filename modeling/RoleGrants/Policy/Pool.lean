import RoleGrants.Policy.Compiled

/-! # The pool that compiles a policy

Holdings pass through a queue of bounded depth to workers that turn resources
into lines, each worker for itself.  A full queue holds the feeder back.  One
worker at a time is at the queue, under a lock; it leaves the queue to the others
while it works.  When nothing is left to feed the queue is closed, the workers
end, and what each has made is joined with the rest.

Every event is one move of one participant.  A formatter may crash on a
resource; its worker is lost then, and joining it fails the whole.  `work` goes
down with every event, so a run that makes one event after another ends.  A
queue that is to be deeper than any can be made aborts the whole at once. -/

set_option autoImplicit false

namespace RoleGrants

/-- The size of a pool: at least one worker, and a queue that holds at least one. -/
structure PoolSize where
  workers : Nat
  depth : Nat
  workers_pos : 0 < workers := by omega
  depth_pos : 0 < depth := by omega
  deriving Repr

def PoolSize.raised (workers depth : Nat) : PoolSize :=
  ⟨max workers 1, max depth 1, by omega, by omega⟩

def PoolSize.greatestDepth : Nat := 2305843009213693951

def PoolSize.isTooDeep (size : PoolSize) : Bool :=
  PoolSize.greatestDepth < size.depth

instance : Inhabited PoolSize := ⟨PoolSize.raised 1 1⟩

/-- How a resource of a role becomes a line; nothing where that crashes. -/
abbrev Formatter := String → Resource → Option Line

def Formatter.plain : Formatter :=
  fun roleId resource => some (Line.ofResource roleId resource)

inductive Worker where
  | waiting (part : Compiled)
  | receiving (part : Compiled)
  | working (part : Compiled) (roleId : String) (rest : List Resource)
  | ended (part : Compiled)
  | crashed
  | joined
  deriving DecidableEq, Repr

/-- Whether the worker holds the lock of the queue. -/
def Worker.isReceiving : Worker → Bool
  | .receiving _ => true
  | _ => false

structure Pool where
  feed : List Holding
  queue : List Holding := []
  depth : Nat
  closed : Bool := false
  workers : List Worker
  merged : Compiled := {}
  outcome : Option (Except String Compiled) := none

namespace Pool

inductive Event where
  | send
  | close
  | acquire (worker : Nat)
  | receive (worker : Nat)
  | format (worker : Nat)
  | leave (worker : Nat)
  | join (worker : Nat)
  | finish
  deriving DecidableEq, Repr

def start (size : PoolSize) (feed : List Holding) : Pool where
  feed := feed
  depth := size.depth
  workers := List.replicate size.workers (.waiting {})

def withWorker (pool : Pool) (index : Nat) (worker : Worker) : Pool :=
  { pool with workers := pool.workers.set index worker }

def addLine (part : Compiled) (line : Line) : Compiled :=
  match line.unstorable with
  | some _ => { part with rejected := part.rejected + 1 }
  | none => { part with lines := line :: part.lines }

def crash : String :=
  "task panicked"

/-- What comes of an event; nothing when it cannot happen now. -/
def step? (formatter : Formatter) (pool : Pool) (event : Event) : Option Pool :=
  if pool.outcome.isSome then none
  else
    match event with
    | .send =>
        match pool.feed with
        | [] => none
        | holding :: feed =>
            if pool.queue.length < pool.depth then
              some { pool with feed := feed, queue := pool.queue ++ [holding] }
            else none
    | .close =>
        if pool.feed.isEmpty ∧ pool.closed = false then some { pool with closed := true } else none
    | .acquire index =>
        match pool.workers[index]? with
        | some (.waiting part) =>
            if pool.workers.any Worker.isReceiving then none
            else some (pool.withWorker index (.receiving part))
        | _ => none
    | .receive index =>
        match pool.workers[index]?, pool.queue with
        | some (.receiving part), holding :: queue =>
            let counted := { part with
              roles := part.roles + 1
              resources := part.resources + holding.resources.length }
            some { pool.withWorker index (.working counted holding.roleId holding.resources) with
              queue := queue }
        | _, _ => none
    | .format index =>
        match pool.workers[index]? with
        | some (.working part _ []) => some (pool.withWorker index (.waiting part))
        | some (.working part roleId (resource :: rest)) =>
            match formatter roleId resource with
            | some line => some (pool.withWorker index (.working (addLine part line) roleId rest))
            | none => some (pool.withWorker index .crashed)
        | _ => none
    | .leave index =>
        match pool.workers[index]? with
        | some (.receiving part) =>
            if pool.closed ∧ pool.queue.isEmpty then some (pool.withWorker index (.ended part))
            else none
        | _ => none
    | .join index =>
        if pool.closed then
          match pool.workers[index]? with
          | some (.ended part) =>
              some { pool.withWorker index .joined with merged := pool.merged.absorb part }
          | some .crashed =>
              some { pool.withWorker index .joined with outcome := some (.error crash) }
          | _ => none
        else none
    | .finish =>
        if pool.closed ∧ pool.workers.all (· == .joined) then
          some { pool with outcome := some (.ok pool.merged) }
        else none

def holdingWork (holding : Holding) : Nat :=
  holding.resources.length + 3

def workerWork : Worker → Nat
  | .waiting _ => 3
  | .receiving _ => 2
  | .working _ _ rest => rest.length + 4
  | .ended _ => 1
  | .crashed => 1
  | .joined => 0

def total {α : Type} (weight : α → Nat) : List α → Nat
  | [] => 0
  | item :: rest => weight item + total weight rest

/-- A bound on the events that are still to come. -/
def work (pool : Pool) : Nat :=
  total (fun holding => holdingWork holding + 1) pool.feed + total holdingWork pool.queue +
    total workerWork pool.workers + (if pool.closed then 0 else 1) +
    (if pool.outcome.isSome then 0 else 1)

def workerEvents (index : Nat) : List Event :=
  [.format index, .receive index, .leave index, .acquire index, .join index]

def events (pool : Pool) : List Event :=
  .send :: .close :: (List.range pool.workers.length).flatMap workerEvents ++ [.finish]

/-- The first event of the list that can happen. -/
def nextEvent? (formatter : Formatter) (pool : Pool) : Option Event :=
  pool.events.find? fun event => (pool.step? formatter event).isSome

def next? (formatter : Formatter) (pool : Pool) : Option Pool :=
  (pool.nextEvent? formatter).bind (pool.step? formatter)

def runFor (formatter : Formatter) : Nat → Pool → Pool
  | 0, pool => pool
  | fuel + 1, pool =>
      match pool.next? formatter with
      | some next => runFor formatter fuel next
      | none => pool

def run (formatter : Formatter) (pool : Pool) : Pool :=
  pool.runFor formatter pool.work

end Pool

inductive Compilation where
  | made (policy : Compiled)
  | failed (text : String)
  | aborted
  deriving DecidableEq, Repr

def compile (size : PoolSize) (holdings : List Holding) : Compilation :=
  if size.isTooDeep then .aborted
  else
    match ((Pool.start size holdings).run Formatter.plain).outcome with
    | some (.ok compiled) => .made compiled
    | some (.error text) => .failed text
    | none => .failed "compilation stopped"

end RoleGrants
