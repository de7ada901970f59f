import RoleGrants.Files.OsError

/-! # Errors of a database -/

set_option autoImplicit false

namespace RoleGrants

inductive DatabaseError where
  | setting (text : String)
  | settings (cause : DatabaseError)
  | communication (cause : OsError)
  deriving DecidableEq, Repr

namespace DatabaseError

def message : DatabaseError → String
  | .setting text => "error with configuration: " ++ text
  | .settings cause => "error with configuration: " ++ cause.message
  | .communication cause => "error communicating with database: " ++ cause.message

def chain : DatabaseError → List String
  | .setting text => [(DatabaseError.setting text).message, text]
  | .settings cause => (DatabaseError.settings cause).message :: cause.chain
  | .communication cause => [(DatabaseError.communication cause).message, cause.message]

def unreachable : DatabaseError :=
  .communication .networkUnreachable

end DatabaseError

end RoleGrants
