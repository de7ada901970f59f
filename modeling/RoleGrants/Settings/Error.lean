import RoleGrants.Files.OsError
import RoleGrants.Files.PathName

/-! # Errors of the settings

Each error names the variable, the field or the file that it is about. -/

set_option autoImplicit false

namespace RoleGrants

inductive SettingsError where
  | address (name : String)
  | backend (name value : String)
  | unreadable (path : PathName) (cause : OsError)
  | unparsable
  | noDatabase
  deriving DecidableEq, Repr

namespace SettingsError

def message : SettingsError → String
  | .address name => "parse " ++ name
  | .backend name _ => "parse " ++ name
  | .unreadable path _ => "read POLICYD_CONFIG: " ++ path
  | .unparsable => "parse policyd config yaml"
  | .noDatabase => "postgres storage or cache selected but POLICYD_PG_URL is not set"

def causes : SettingsError → List String
  | .address _ => ["invalid socket address syntax"]
  | .backend _ value =>
      ["unknown backend " ++ Text.quote value ++ "; expected memory or postgres"]
  | .unreadable _ cause => [cause.message]
  | .unparsable => []
  | .noDatabase => []

def chain (error : SettingsError) : List String :=
  error.message :: error.causes

end SettingsError

end RoleGrants
