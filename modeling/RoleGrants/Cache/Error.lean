/-! # Errors of the cache -/

set_option autoImplicit false

namespace RoleGrants

inductive CacheError where
  | backend (text : String)
  | unavailable (text : String)
  deriving DecidableEq, Repr

def CacheError.message : CacheError → String
  | .backend text => "cache backend error: " ++ text
  | .unavailable text => "cache unavailable: " ++ text

end RoleGrants
