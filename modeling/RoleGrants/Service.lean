import RoleGrants.Engine.Build
import RoleGrants.Metrics
import RoleGrants.Sync.Basic

/-! # The service

All that the service holds while it runs: the store and the cache, the key of
the change signal, the live generation, the state of the passes, the metrics,
the files, and the settings.  The clock counts milliseconds for lifetimes and
microseconds since 1970 for markers; it moves on with every reading. -/

set_option autoImplicit false

namespace RoleGrants

structure Clock where
  instant : Nat := 0
  wall : Marker := 0
  deriving DecidableEq, Repr, Inhabited

structure Workshop where
  refusal : Option PolicyError := none
  report : List (List String) → List (List String) := id
  built : Nat := 0

structure PassSettings where
  modelPath : PathName
  policyPath : PathName
  size : PoolSize := PoolSize.raised 2 64

/-- The loop that ticks at an interval, in milliseconds; an aborted tick is its last. -/
structure Loop where
  interval : Nat
  due : Nat
  alive : Bool := true
  deriving DecidableEq, Repr

structure Service where
  store : StoreAccess := {}
  cache : CacheAccess := {}
  signal : Signal := {}
  handle : Handle := {}
  sync : Sync := {}
  authorizer : Authorizer := {}
  metrics : Metrics := {}
  files : Files := {}
  workshop : Workshop := {}
  settings : PassSettings
  clock : Clock := {}
  loop : Option Loop := none

namespace Service

/-- The time on the wall; the next reading is later. -/
def readWall (service : Service) : Service × Marker :=
  ({ service with clock := { service.clock with wall := service.clock.wall + 1 } },
    service.clock.wall)

def readSignal (service : Service) : Service × Except SignalError (Option Marker) :=
  let (cache, answer) := service.signal.read service.cache service.clock.instant
  ({ service with cache := cache }, answer)

def bumpSignalAt (service : Service) (signal : Signal) : Service × Except SignalError Marker :=
  let (timed, now) := service.readWall
  let (cache, answer) := signal.bump timed.cache timed.clock.instant now
  ({ timed with cache := cache }, answer)

def bumpSignal (service : Service) : Service × Except SignalError Marker :=
  service.bumpSignalAt service.signal

/-- Every decision is counted; what is no decision is not. -/
def authorize (service : Service) (request : Request) : Service × Ruling :=
  let ruling := service.authorizer.decide service.handle.current request
  match ruling with
  | .decided decision =>
      ({ service with metrics := service.metrics.decided decision }, ruling)
  | _ => (service, ruling)

def buildEngine (service : Service) : Service × Except PolicyError Engine :=
  match service.workshop.refusal with
  | some error => (service, .error error)
  | none =>
      let settings := service.settings
      match Engine.ofFiles service.files settings.modelPath settings.policyPath with
      | .error error => (service, .error (.engine error))
      | .ok engine =>
          let workshop := service.workshop
          ({ service with workshop := { workshop with built := workshop.built + 1 } },
            .ok { engine with rules := workshop.report engine.rules })

end Service

end RoleGrants
