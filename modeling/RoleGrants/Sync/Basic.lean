import RoleGrants.Policy.Authorize
import RoleGrants.Policy.Gather
import RoleGrants.Policy.Pool
import RoleGrants.Policy.Publish

/-! # Passes

A pass brings the grants of the store into force: it lists the roles, gathers
their resources, compiles and publishes the policy, builds an engine from the
files, and installs it.  Three calls start one: the load at the start, a reload
on demand, and the tick of the loop.  One pass runs at a time.

`lastApplied` is the marker that the live policy was made for; the least marker
stands for none. -/

set_option autoImplicit false

namespace RoleGrants

inductive Caller where
  | load
  | reload
  | tick
  deriving DecidableEq, Repr

inductive PassOutcome where
  | swapped (generation : Generation)
  | empty

inductive TickOutcome where
  | idle
  | unchanged
  | reloaded (generation : Generation)
  | failed
  | busy
  | signalUnavailable

inductive CallAnswer where
  | outcome (result : Except PolicyError PassOutcome)
  | tick (result : TickOutcome)
  | aborted

structure Job where
  roleId : String
  gather : Gather

/-- Where a pass stands.  One that has ended still holds its place. -/
inductive Stage where
  | entered
  | listing
  | gathering (jobs : List Job) (holdings : List Holding)
  | compiling (pool : Pool)
  | publishing (compiled : Compiled) (publish : Publish)
  | building (compiled : Compiled)
  | installing (compiled : Compiled) (engine : Engine)
  | finished (result : Except PolicyError PassOutcome)
  | ended (answer : CallAnswer)

structure Pass where
  caller : Caller
  signal : Option Marker := none
  stage : Stage := .entered

structure Sync where
  lastApplied : Marker := Marker.least
  pass : Option Pass := none

namespace Sync

def applied (sync : Sync) : Option Marker :=
  if sync.lastApplied = Marker.least then none else some sync.lastApplied

/-- The live policy was made for this marker or a later one. -/
def covers (sync : Sync) (marker : Marker) : Bool :=
  match sync.applied with
  | some applied => marker ≤ applied
  | none => false

def setApplied (sync : Sync) (marker : Option Marker) : Sync :=
  match marker with
  | some value => { sync with lastApplied := value }
  | none => sync

end Sync

def newerMarker (applied signal : Option Marker) : Option Marker :=
  match applied, signal with
  | some first, some second => some (max first second)
  | some first, none => some first
  | none, other => other

/-- The engine holds the lines and nothing else, in whatever order. -/
def verifyRules (compiled : Compiled) (engine : Engine) : Except PolicyError Unit :=
  let loaded := sortBy (fun rule => rule) engine.rules
  if loaded = compiled.lines.map Line.rule then .ok ()
  else .error (.mismatch compiled.lines.length loaded.length)

end RoleGrants
