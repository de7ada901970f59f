import RoleGrants.Engine.Error
import RoleGrants.Files.PathName
import RoleGrants.Signal.Error
import RoleGrants.Store.Error

/-! # Errors of a policy pass -/

set_option autoImplicit false

namespace RoleGrants

inductive PolicyError where
  | empty
  | inProgress
  | store (cause : StoreError)
  | signal (cause : SignalError)
  | engine (cause : EngineError)
  | files (path : PathName) (cause : OsError)
  | worker (text : String)
  | mismatch (compiled loaded : Nat)
  deriving DecidableEq, Repr

namespace PolicyError

def message : PolicyError → String
  | .empty => "compiled policy is empty"
  | .inProgress => "a policy reload is already in progress"
  | .store cause => "store error: " ++ cause.message
  | .signal cause => "change signal error: " ++ cause.message
  | .engine cause => "policy engine error: " ++ cause.message
  | .files path cause => "io error at " ++ path ++ ": " ++ cause.message
  | .worker text => "policy worker failed: " ++ text
  | .mismatch compiled loaded =>
      "engine loaded " ++ toString loaded ++ " rules that do not match the " ++
        toString compiled ++ " compiled lines"

def chain (error : PolicyError) : List String :=
  match error with
  | .store cause => error.message :: cause.chain
  | .signal cause => error.message :: cause.chain
  | .engine cause => error.message :: cause.chain
  | .files _ cause => [error.message, cause.message]
  | _ => [error.message]

end PolicyError

end RoleGrants
