import RoleGrants.Service

/-! # The moves of a pass

A pass reads the signal, lists the roles, gathers the resources of each, has
them compiled, publishes the policy, builds an engine, installs it, and records
the marker.  Between two moves anything else may happen to the service.

As many roles as the pool has workers are gathered at a time, and any of them
may be the next to ask the store; what they hold is taken in the order in which
they are done.  The pool makes its events in any order too.  `nextMove?` is one
choice among the moves, and `advance` makes it. -/

set_option autoImplicit false

namespace RoleGrants

inductive Move where
  | onward
  | gather (job : Nat)
  | compile (event : Pool.Event)
  deriving DecidableEq, Repr

namespace Service

def toStage (service : Service) (pass : Pass) (stage : Stage) : Service :=
  { service with sync := { service.sync with pass := some { pass with stage := stage } } }

def finishPass (service : Service) (pass : Pass) (result : Except PolicyError PassOutcome) :
    Service :=
  service.toStage pass (.finished result)

/-! ## The signal -/

/-- A tick goes on for a marker that is not covered yet, or ends at once. -/
def readForTick (service : Service) (pass : Pass) : Service :=
  match service.readSignal with
  | (read, .error _) => read.toStage pass (.ended (.tick .signalUnavailable))
  | (read, .ok none) => read.toStage pass (.ended (.tick .idle))
  | (read, .ok (some marker)) =>
      if read.sync.covers marker then read.toStage pass (.ended (.tick .unchanged))
      else read.toStage { pass with signal := some marker } .listing

/-- The other calls go on in any case; a marker that cannot be read is not recorded. -/
def readInAnyCase (service : Service) (pass : Pass) : Service :=
  match service.readSignal with
  | (read, .error _) => read.toStage pass .listing
  | (read, .ok signal) => read.toStage { pass with signal := signal } .listing

def readForPass (service : Service) (pass : Pass) : Service :=
  match pass.caller with
  | .tick => service.readForTick pass
  | _ => service.readInAnyCase pass

/-! ## Roles and resources -/

/-- Nothing is gathered for a queue that cannot be made: the pass is aborted, and not counted. -/
def listRoles (service : Service) (pass : Pass) : Service :=
  match service.store.queries.enabledRoles with
  | .error error => service.finishPass pass (.error (.store error))
  | .ok roles =>
      if service.settings.size.isTooDeep then service.toStage pass (.ended .aborted)
      else service.toStage pass (.gathering (roles.map fun role => ⟨role.id, .linked⟩) [])

/-- One query for a role, or its end; a role that fails is left out and counted. -/
def gatherAt (service : Service) (pass : Pass) (jobs : List Job) (holdings : List Holding)
    (index : Nat) : Option Service :=
  if index < service.settings.size.workers then
    jobs[index]?.map fun job =>
      match job.gather with
      | .done (.ok resources) =>
          service.toStage pass
            (.gathering (jobs.eraseIdx index) (holdings ++ [⟨job.roleId, resources⟩]))
      | .done (.error _) =>
          ({ service with metrics := service.metrics.aggregationFailed } : Service).toStage pass
            (.gathering (jobs.eraseIdx index) holdings)
      | gather =>
          let next := gather.advance service.store.queries job.roleId
          service.toStage pass (.gathering (jobs.set index { job with gather := next }) holdings)
  else none

/-! ## The policy -/

/-- The lines left out are counted; an empty policy ends the pass. -/
def receiveCompiled (service : Service) (pass : Pass) : Except String Compiled → Service
  | .error text => service.finishPass pass (.error (.worker text))
  | .ok compiled =>
      let counted := { service with metrics := service.metrics.linesRejected compiled.rejected }
      if compiled.isEmpty then counted.finishPass pass (.ok .empty)
      else
        counted.toStage pass
          (.publishing compiled { path := service.settings.policyPath, text := compiled.render })

def advancePublishing (service : Service) (pass : Pass) (compiled : Compiled)
    (publish : Publish) : Service :=
  match publish.stage with
  | .ended (.ok ()) => service.toStage pass (.building compiled)
  | .ended (.error error) => service.finishPass pass (.error error)
  | _ =>
      let (files, next) := publish.advance service.files
      ({ service with files := files } : Service).toStage pass (.publishing compiled next)

def buildForPass (service : Service) (pass : Pass) (compiled : Compiled) : Service :=
  match service.buildEngine with
  | (after, .error error) => after.finishPass pass (.error error)
  | (after, .ok engine) =>
      match verifyRules compiled engine with
      | .error error => after.finishPass pass (.error error)
      | .ok () => after.toStage pass (.installing compiled engine)

def installForPass (service : Service) (pass : Pass) (compiled : Compiled) (engine : Engine) :
    Service :=
  let (timed, now) := service.readWall
  let lines := compiled.lines.length
  let (handle, generation) := timed.handle.install engine pass.signal lines now
  let installed := { timed with
    handle := handle
    metrics := timed.metrics.installed lines generation.id }
  installed.finishPass pass (.ok (.swapped generation))

/-! ## The record -/

def resultOf : Except PolicyError PassOutcome → PassResult
  | .ok (.swapped _) => .ok
  | .ok .empty => .empty
  | .error _ => .error

/-- The marker recorded after a swap: a reload never goes back behind the one recorded. -/
def markerAfter (sync : Sync) (pass : Pass) : Option Marker :=
  match pass.caller with
  | .reload => newerMarker sync.applied pass.signal
  | _ => pass.signal

def answerOf (pass : Pass) (result : Except PolicyError PassOutcome) : CallAnswer :=
  match pass.caller with
  | .tick =>
      match result with
      | .ok (.swapped generation) => .tick (.reloaded generation)
      | _ => .tick .failed
  | _ => .outcome result

/-- The pass is counted.  Of one that swaps no generation in no marker is recorded, so the
next tick tries again. -/
def record (service : Service) (pass : Pass) (result : Except PolicyError PassOutcome) :
    Service :=
  let recorded := match result with
    | .ok (.swapped _) => service.sync.setApplied (markerAfter service.sync pass)
    | _ => service.sync
  let counted := { service with
    metrics := service.metrics.passed (resultOf result)
    sync := recorded }
  counted.toStage pass (.ended (answerOf pass result))

/-! ## Moves -/

def move? (service : Service) (move : Move) : Option Service :=
  match service.sync.pass with
  | none => none
  | some pass =>
      match pass.stage, move with
      | .entered, .onward => some (service.readForPass pass)
      | .listing, .onward => some (service.listRoles pass)
      | .gathering [] holdings, .onward =>
          some (service.toStage pass (.compiling (Pool.start service.settings.size holdings)))
      | .gathering jobs holdings, .gather index => service.gatherAt pass jobs holdings index
      | .compiling pool, .compile event =>
          (pool.step? Formatter.plain event).map fun next =>
            service.toStage pass (.compiling next)
      | .compiling pool, .onward => pool.outcome.map (service.receiveCompiled pass)
      | .publishing compiled publish, .onward =>
          some (service.advancePublishing pass compiled publish)
      | .building compiled, .onward => some (service.buildForPass pass compiled)
      | .installing compiled engine, .onward => some (service.installForPass pass compiled engine)
      | .finished result, .onward => some (service.record pass result)
      | _, _ => none

/-- The first role, and the first event of the pool that can happen. -/
def nextMove? : Stage → Option Move
  | .gathering (_ :: _) _ => some (.gather 0)
  | .compiling pool =>
      if pool.outcome.isSome then some .onward
      else (pool.nextEvent? Formatter.plain).map Move.compile
  | .ended _ => none
  | _ => some .onward

def advance (service : Service) : Service :=
  match service.sync.pass with
  | none => service
  | some pass => ((nextMove? pass.stage).bind service.move?).getD service

end Service

end RoleGrants
