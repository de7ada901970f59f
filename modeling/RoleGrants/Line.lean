import RoleGrants.Record
import RoleGrants.Text.Blank

/-! # Policy lines

A line grants a subject, the id of a role, an action on an object, the pattern
of a path.  Lines are ordered by subject, then object, then action.

A policy file trims the fields of a line and takes commas, quotes and line ends
for its own, so a line is kept in one only when every field comes through. -/

set_option autoImplicit false

namespace RoleGrants

structure Line where
  subject : String
  object : String
  action : String
  deriving DecidableEq, Repr, Inhabited

inductive LineField where
  | subject
  | object
  | action
  deriving DecidableEq, Repr

def LineField.name : LineField → String
  | .subject => "subject"
  | .object => "object"
  | .action => "action"

/-- Characters that have a meaning of their own in a policy file. -/
def reservedCharacters : List Char :=
  [',', Char.ofNat 0x22, '\r', '\n']

def isStorable (text : String) : Bool :=
  text != "" && Text.trim text == text &&
    !text.toList.any fun character => reservedCharacters.contains character

namespace Line

def ofResource (roleId : String) (resource : Resource) : Line :=
  ⟨roleId, resource.path, resource.method⟩

def rule (line : Line) : List String :=
  [line.subject, line.object, line.action]

theorem rule_injective {first second : Line} (same : first.rule = second.rule) :
    first = second := by
  cases first
  cases second
  simp_all [rule]

instance : LT Line :=
  ⟨fun first second => first.rule < second.rule⟩

instance (first second : Line) : Decidable (first < second) :=
  inferInstanceAs (Decidable (first.rule < second.rule))

def unstorable (line : Line) : Option LineField :=
  if !isStorable line.subject then some .subject
  else if !isStorable line.object then some .object
  else if !isStorable line.action then some .action
  else none

def text (line : Line) : String :=
  "p, " ++ line.subject ++ ", " ++ line.object ++ ", " ++ line.action

end Line

end RoleGrants
