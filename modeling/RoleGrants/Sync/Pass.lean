import RoleGrants.Sync.Move

/-! # Calls that start a pass

A call takes the place of the one running pass, makes the moves of its pass to
the end, and gives the place back.  While the place is taken a load waits, a
reload is refused and a tick is skipped. -/

set_option autoImplicit false

namespace RoleGrants

inductive Begun where
  | waits
  | answered (answer : CallAnswer)
  | started

namespace Service

def enter (service : Service) (caller : Caller) : Service :=
  { service with sync := { service.sync with pass := some { caller := caller } } }

def begin (service : Service) (caller : Caller) : Service × Begun :=
  match service.sync.pass, caller with
  | some _, .load => (service, .waits)
  | some _, .reload => (service, .answered (.outcome (.error .inProgress)))
  | some _, .tick =>
      ({ service with metrics := service.metrics.ticksSkipped 1 }, .answered (.tick .busy))
  | none, caller => (service.enter caller, .started)

def conclude (service : Service) : Service × Option CallAnswer :=
  match service.sync.pass with
  | some pass =>
      match pass.stage with
      | .ended answer =>
          ({ service with sync := { service.sync with pass := none } }, some answer)
      | _ => (service, none)
  | none => (service, none)

/-! ## Whole calls -/

def jobsWork (fuel : Nat) (jobs : List Job) : Nat :=
  jobs.length * (fuel + 1)

/-- More moves than this no pass makes from its stage to the next. -/
def stageFuel (service : Service) : Nat :=
  match service.sync.pass with
  | none => 0
  | some pass =>
      match pass.stage with
      | .gathering jobs _ => jobsWork service.store.gatherFuel jobs + 1
      | .compiling pool => pool.work + 1
      | .publishing _ publish => Publish.distance publish.stage + 1
      | .ended _ => 0
      | _ => 1

def isAt (service : Service) (here : Stage → Bool) : Bool :=
  match service.sync.pass with
  | some pass => here pass.stage
  | none => false

/-- So many moves, or fewer where a stage that is asked for comes first. -/
def advanceFor (stop : Stage → Bool) : Nat → Service → Service
  | 0, service => service
  | fuel + 1, service =>
      if service.isAt stop then service else advanceFor stop fuel service.advance

def advanceThrough (stop : Stage → Bool) : Nat → Service → Service
  | 0, service => service
  | stages + 1, service =>
      advanceThrough stop stages (advanceFor stop service.stageFuel service)

/-- Moves up to a stage that is asked for; a pass goes through eight stages to its end. -/
def advanceTo (stop : Stage → Bool) (service : Service) : Service :=
  advanceThrough stop 9 service

def isBuilding : Stage → Bool
  | .building _ => true
  | _ => false

def isEnded : Stage → Bool
  | .ended _ => true
  | _ => false

def complete (service : Service) : Service × Option CallAnswer :=
  (service.advanceTo isEnded).conclude

/-- A call at one go; nothing where it has to wait. -/
def call (service : Service) (caller : Caller) : Service × Option CallAnswer :=
  match service.begin caller with
  | (after, .answered answer) => (after, some answer)
  | (after, .waits) => (after, none)
  | (after, .started) => after.complete

def load (service : Service) : Service × Option CallAnswer :=
  service.call .load

def reload (service : Service) : Service × Option CallAnswer :=
  service.call .reload

def tick (service : Service) : Service × Option CallAnswer :=
  service.call .tick

end Service

end RoleGrants
