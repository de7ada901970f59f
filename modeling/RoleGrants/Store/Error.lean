import RoleGrants.Database.Error

/-! # Errors of the store -/

set_option autoImplicit false

namespace RoleGrants

inductive StoreError where
  | notFound (text : String)
  | conflict (text : String)
  | database (cause : DatabaseError)
  | unexpected (text : String)
  deriving DecidableEq, Repr

namespace StoreError

def message : StoreError → String
  | .notFound text => "not found: " ++ text
  | .conflict text => "conflict: " ++ text
  | .database cause => "database error: " ++ cause.message
  | .unexpected text => text

def chain (error : StoreError) : List String :=
  match error with
  | .database cause => error.message :: cause.chain
  | _ => [error.message]

end StoreError

end RoleGrants
