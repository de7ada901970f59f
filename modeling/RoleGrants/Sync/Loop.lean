import RoleGrants.Sync.Pass

/-! # The loop

While the loop runs, a tick falls due at every interval, the first of them one
interval after the start.  A step of the service takes no time, so ticks come
only while the time is made to pass.  No tick follows one that is aborted. -/

set_option autoImplicit false

namespace RoleGrants.Service

/-- An interval of nothing is raised to a millisecond. -/
def spawnLoop (service : Service) (interval : Nat) : Service :=
  let period := max interval 1
  { service with loop := some { interval := period, due := service.clock.instant + period } }

def stopLoop (service : Service) : Service × Bool :=
  ({ service with loop := none }, service.loop.isSome)

def atInstant (service : Service) (instant : Nat) : Service :=
  { service with clock := { service.clock with instant := instant } }

def nextTick (service : Service) : Service :=
  match service.loop with
  | none => service
  | some loop =>
      if loop.alive then
        let next := { loop with due := loop.due + loop.interval }
        let moved := { service.atInstant (max service.clock.instant loop.due) with
          loop := some next }
        match moved.tick with
        | (after, some .aborted) => { after with loop := some { next with alive := false } }
        | (after, _) => after
      else service

def passTime : Nat → Nat → Service → Service
  | 0, target, service => service.atInstant target
  | fuel + 1, target, service =>
      match service.loop with
      | some loop =>
          if loop.alive && loop.due ≤ target then passTime fuel target service.nextTick
          else service.atInstant target
      | none => service.atInstant target

def wait (service : Service) (time : Nat) : Service :=
  passTime (time + 1) (service.clock.instant + time) service

def hasGeneration (service : Service) (id : Nat) : Bool :=
  match service.handle.current with
  | some generation => id ≤ generation.id
  | none => false

def awaitGeneration (id : Nat) : Nat → Service → Service
  | 0, service => service
  | fuel + 1, service =>
      if service.hasGeneration id then service else awaitGeneration id fuel service.nextTick

end RoleGrants.Service
