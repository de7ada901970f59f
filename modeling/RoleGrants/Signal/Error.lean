import RoleGrants.Cache.Error
import RoleGrants.Text.Quoted

/-! # Errors of the change signal -/

set_option autoImplicit false

namespace RoleGrants

inductive SignalError where
  | cache (cause : CacheError)
  | notMarker (value : String)
  deriving DecidableEq, Repr

namespace SignalError

def message : SignalError → String
  | .cache cause => "change signal unavailable: " ++ cause.message
  | .notMarker value => "change signal value " ++ Text.quote value ++ " is not a timestamp"

def chain (error : SignalError) : List String :=
  match error with
  | .cache cause => [error.message, cause.message]
  | .notMarker _ => [error.message]

end SignalError

end RoleGrants
