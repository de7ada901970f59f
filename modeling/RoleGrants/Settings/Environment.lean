import RoleGrants.Text.Blank
import RoleGrants.Text.Decimal
import RoleGrants.Text.Split

/-! # The environment

Named texts that the process was started with.  A variable that is not set, or
a count that is no positive number within its limit, leaves the default. -/

set_option autoImplicit false

namespace RoleGrants

abbrev Environment := List (String × String)

namespace Environment

def value? (environment : Environment) (name : String) : Option String :=
  environment.lookup name

def value (environment : Environment) (name default : String) : String :=
  (environment.value? name).getD default

def positive? (limit : Nat) (text : String) : Option Nat :=
  (Text.natural? limit text).filter fun number => 0 < number

def count (environment : Environment) (name : String) (limit default : Nat) : Nat :=
  ((environment.value? name).bind (positive? limit)).getD default

/-- Three words switch a flag on, and every other text switches it off. -/
def isYes (text : String) : Bool :=
  text == "1" || text == "true" || text == "yes"

def flag (environment : Environment) (name : String) (default : Bool) : Bool :=
  ((environment.value? name).map isYes).getD default

/-- What stands between commas, without blanks around it; nothing stands for no item. -/
def items (text : String) : List String :=
  ((Text.pieces ',' text).map Text.trim).filter fun item => item != ""

def list (environment : Environment) (name : String) : List String :=
  ((environment.value? name).map items).getD []

end Environment

end RoleGrants
