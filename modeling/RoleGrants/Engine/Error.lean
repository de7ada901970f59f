import RoleGrants.Files.OsError

/-! # Errors of the policy engine

A model that cannot be read is invalid; every other fault arises while rules
are loaded or a request is weighed. -/

set_option autoImplicit false

namespace RoleGrants

inductive Definition where
  | request
  | policy
  | matcher
  | effect
  deriving DecidableEq, Repr

namespace Definition

def letter : Definition → String
  | .request => "r"
  | .policy => "p"
  | .matcher => "m"
  | .effect => "e"

def sectionName : Definition → String
  | .request => "request_definition"
  | .policy => "policy_definition"
  | .matcher => "matchers"
  | .effect => "policy_effect"

def absence : Definition → String
  | .request => "R(\"Missing request definition in conf file\")"
  | .policy => "P(\"Missing policy definition in conf file\")"
  | .matcher => "M(\"Missing matcher definition in conf file\")"
  | .effect => "E(\"Missing effector definition in conf file\")"

end Definition

inductive EngineFault where
  | file (cause : OsError)
  | missing (definition : Definition)
  | roleDefinition
  | requestSize (expected given : Nat)
  | ruleSize (expected given : Nat)
  | unresolved (name : String) (column : Nat)
  deriving DecidableEq, Repr

def EngineFault.message : EngineFault → String
  | .file cause => "Casbin Io Error: `" ++ cause.debug ++ "`"
  | .missing definition => "Casbin Model Error: `" ++ definition.absence ++ "`"
  | .roleDefinition =>
      "Casbin Model Error: `P(" ++
        Text.quote "the number of \"_\" in role definition should be at least 2" ++ ")`"
  | .requestSize expected given =>
      "Casbin Request Error: `UnmatchRequestDefinition(" ++ toString expected ++ ", " ++
        toString given ++ ")`"
  | .ruleSize expected given =>
      "Casbin Policy Error: `UnmatchPolicyDefinition(" ++ toString expected ++ ", " ++
        toString given ++ ")`"
  | .unresolved name column =>
      "Casbin Evaluation Error: `ErrorVariableNotFound(" ++ Text.quote name ++ ", 1:" ++
        toString column ++ ")`"

inductive EngineError where
  | fault (cause : EngineFault)
  | invalidModel (text : String)
  deriving DecidableEq, Repr

namespace EngineError

def message : EngineError → String
  | .fault cause => "policy engine error: " ++ cause.message
  | .invalidModel text => "invalid policy model: " ++ text

def chain (error : EngineError) : List String :=
  match error with
  | .fault (.file cause) => [error.message, (EngineFault.file cause).message, cause.message]
  | .fault cause => [error.message, cause.message]
  | .invalidModel _ => [error.message]

end EngineError

end RoleGrants
