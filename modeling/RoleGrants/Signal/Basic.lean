import RoleGrants.Cache.Access
import RoleGrants.Signal.Error
import RoleGrants.Text.Blank
import RoleGrants.Text.Decimal

/-! # The change signal

A marker under one key of the cache tells that grants have changed.  A marker
is a whole number of 64 bits, microseconds since 1970 as a rule, written in
decimal.  A bump puts the time there, or the number after the present marker if
the time is not beyond it; a value that is no marker is overwritten. -/

set_option autoImplicit false

namespace RoleGrants

abbrev Marker := Int

namespace Marker

def least : Marker := -9223372036854775808

def greatest : Marker := 9223372036854775807

def ofText? (text : String) : Option Marker :=
  Text.signed? least greatest (Text.trim text)

def text (marker : Marker) : String :=
  toString marker

def next (now : Marker) (current : Option Marker) : Marker :=
  match current with
  | some marker => if now ≤ marker then min (marker + 1) greatest else now
  | none => now

end Marker

structure Signal where
  scope : String := "role"
  key : String := "sync:casbin"
  deriving DecidableEq, Repr, Inhabited

namespace Signal

def interpret (value : Option String) : Except SignalError (Option Marker) :=
  match value with
  | none => .ok none
  | some text =>
      match Marker.ofText? text with
      | some marker => .ok (some marker)
      | none => .error (.notMarker text)

def read (signal : Signal) (cache : CacheAccess) (now : Nat) :
    CacheAccess × Except SignalError (Option Marker) :=
  match cache.get now signal.scope signal.key with
  | (after, .error refusal) => (after, .error (.cache refusal))
  | (after, .ok value) => (after, interpret value)

/-- The present marker as a bump takes it: a value that is none counts as absent. -/
def current (answer : Except SignalError (Option Marker)) : Except SignalError (Option Marker) :=
  match answer with
  | .error (.notMarker _) => .ok none
  | other => other

def write (signal : Signal) (cache : CacheAccess) (now : Nat) (marker : Marker) :
    CacheAccess × Except SignalError Marker :=
  match cache.set now signal.scope signal.key marker.text none with
  | (after, .error refusal) => (after, .error (.cache refusal))
  | (after, .ok ()) => (after, .ok marker)

/-- Reads the key, then the time, then writes. -/
def bump (signal : Signal) (cache : CacheAccess) (now : Nat) (time : Marker) :
    CacheAccess × Except SignalError Marker :=
  match signal.read cache now with
  | (read, answer) =>
      match current answer with
      | .error error => (read, .error error)
      | .ok present => signal.write read now (Marker.next time present)

def debug (signal : Signal) (backend : Backend) : String :=
  "ChangeSignal " ++ Text.braced ("backend: " ++ Text.quote backend.name ++ ", namespace: " ++
    Text.quote signal.scope ++ ", key: " ++ Text.quote signal.key)

end Signal

end RoleGrants
