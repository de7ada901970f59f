import RoleGrants.Policy.Authorize
import RoleGrants.Sorted

/-! # Metrics

Counts of what the service has done, and the last values of two gauges.  What
has never been touched is not shown. -/

set_option autoImplicit false

namespace RoleGrants

inductive PassResult where
  | ok
  | empty
  | error
  deriving DecidableEq, Repr

def PassResult.label : PassResult → String
  | .ok => "ok"
  | .empty => "empty"
  | .error => "error"

structure Metrics where
  counters : List (String × Nat) := []
  policyLines : Option Nat := none
  policyGeneration : Option Nat := none
  deriving DecidableEq, Repr, Inhabited

namespace Metrics

def addTo (name : String) (amount : Nat) : List (String × Nat) → List (String × Nat)
  | [] => [(name, amount)]
  | (other, count) :: rest =>
      if other = name then (other, count + amount) :: rest
      else (other, count) :: addTo name amount rest

/-- Nothing is touched where nothing is added. -/
def count (metrics : Metrics) (name : String) (amount : Nat) : Metrics :=
  if amount = 0 then metrics else { metrics with counters := addTo name amount metrics.counters }

def labelled (name label value : String) : String :=
  name ++ "\x7b" ++ label ++ "=\"" ++ value ++ "\"\x7d"

def aggregationFailed (metrics : Metrics) : Metrics :=
  metrics.count "policyd_role_aggregation_failures_total" 1

def linesRejected (metrics : Metrics) (amount : Nat) : Metrics :=
  metrics.count "policyd_rejected_policy_lines_total" amount

def ticksSkipped (metrics : Metrics) (amount : Nat) : Metrics :=
  metrics.count "policyd_ticks_skipped_total" amount

def decided (metrics : Metrics) (decision : Decision) : Metrics :=
  metrics.count (labelled "policyd_authorize_total" "decision" decision.label) 1

/-- Every pass is timed, and counted under its result. -/
def passed (metrics : Metrics) (result : PassResult) : Metrics :=
  (metrics.count "policyd_reload_duration_seconds_count" 1).count
    (labelled "policyd_reload_total" "result" result.label) 1

def installed (metrics : Metrics) (lines generation : Nat) : Metrics :=
  { metrics with policyLines := some lines, policyGeneration := some generation }

def entries (metrics : Metrics) : List (String × Nat) :=
  let gauge (name : String) (value : Option Nat) : List (String × Nat) :=
    value.toList.map fun number => (name, number)
  sortBy Prod.fst
    (metrics.counters ++ gauge "policyd_policy_lines" metrics.policyLines ++
      gauge "policyd_policy_generation" metrics.policyGeneration)

def page (metrics : Metrics) : String :=
  String.join (metrics.entries.map fun (name, value) => name ++ " " ++ toString value ++ "\n")

end Metrics

end RoleGrants
