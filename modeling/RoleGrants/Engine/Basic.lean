import RoleGrants.Engine.Model
import RoleGrants.Engine.RoutePattern
import RoleGrants.Engine.RuleFile

/-! # Policy engines

An engine weighs requests, a subject, a path and a method each, and reports the
rules that it holds.  The engine of a model goes through its rules in order
until one allows the request.  A rule allows it when the subjects are equal,
the path is of the rule's route, and the methods are equal, looked at in this
order; an object that makes no pattern aborts the weighing.

Without rules the request is held against empty fields. -/

set_option autoImplicit false

namespace RoleGrants

inductive Verdict where
  | allowed
  | refused
  | failed (error : EngineError)
  | aborted
  deriving DecidableEq, Repr

structure Engine where
  weigh : String → String → String → Verdict
  rules : List (List String)

inductive Match where
  | yes
  | no
  | unresolved (field : String)
  | aborted
  deriving DecidableEq, Repr

namespace Match

def andThen (first : Match) (second : Unit → Match) : Match :=
  match first with
  | .yes => second ()
  | other => other

end Match

/-- Values under the names of their fields; of fields with one name the last counts. -/
def fieldValue (names values : List String) (name : String) : Option String :=
  (names.zip values).reverse.lookup name

namespace Model

def equal (left right : String × Option String) : Match :=
  match left.2, right.2 with
  | none, _ => .unresolved left.1
  | some _, none => .unresolved right.1
  | some first, some second => if first = second then .yes else .no

def onRoute (path object : String × Option String) : Match :=
  match path.2, object.2 with
  | none, _ => .unresolved path.1
  | some _, none => .unresolved object.1
  | some given, some route =>
      match RoutePattern.admits? route given with
      | none => .aborted
      | some true => .yes
      | some false => .no

/-- The subjects, then the path, then the methods. -/
def compare (requestNames request ruleNames rule : List String) : Match :=
  let asked (name : String) := ("r_" ++ name, fieldValue requestNames request name)
  let ruled (name : String) := ("p_" ++ name, fieldValue ruleNames rule name)
  (equal (asked "sub") (ruled "sub")).andThen fun _ =>
    (onRoute (asked "obj") (ruled "obj")).andThen fun _ =>
      equal (asked "act") (ruled "act")

/-- Where a field stands in a matcher, counted from one. -/
def columnOf (matcher field : String) : Nat :=
  let wanted := field.toList.map fun character => if character = '_' then '.' else character
  let rec search : List Char → Nat → Nat
    | [], column => column
    | character :: rest, column =>
        if wanted.isPrefixOf (character :: rest) then column else search rest (column + 1)
  search matcher.toList 1

def verdict (matcher : String) : Match → Verdict
  | .yes => .allowed
  | .no => .refused
  | .unresolved field => .failed (.fault (.unresolved field (columnOf matcher field)))
  | .aborted => .aborted

/-- A rule with an effect of its own allows only if that is to allow; of several the first
counts. -/
def grants (ruleNames rule : List String) : Bool :=
  match (ruleNames.zip rule).lookup "eft" with
  | some effect => effect == "allow"
  | none => true

/-- The rules in order until one allows the request or cannot be compared. -/
def weighRules (matcher : String) (requestNames request ruleNames : List String) :
    List (List String) → Verdict
  | [] => .refused
  | rule :: rules =>
      if ruleNames.length ≠ rule.length then
        .failed (.fault (.ruleSize ruleNames.length rule.length))
      else
        match compare requestNames request ruleNames rule with
        | .yes =>
            if grants ruleNames rule then .allowed
            else weighRules matcher requestNames request ruleNames rules
        | .no => weighRules matcher requestNames request ruleNames rules
        | other => verdict matcher other

def missing (definition : Definition) : Verdict :=
  .failed (.fault (.missing definition))

def weigh (model : Model) (rules : List (List String)) (subject path method : String) : Verdict :=
  match model.request, model.policy, model.matcher, model.effect with
  | none, _, _, _ => missing .request
  | some _, none, _, _ => missing .policy
  | some _, some _, none, _ => missing .matcher
  | some _, some _, some _, none => missing .effect
  | some requestNames, some ruleNames, some matcher, some _ =>
      let request := [subject, path, method]
      if requestNames.length ≠ request.length then
        .failed (.fault (.requestSize requestNames.length request.length))
      else
        match rules with
        | [] =>
            let blanks := ruleNames.map fun _ => ""
            verdict matcher (compare requestNames request ruleNames blanks)
        | _ :: _ => weighRules matcher requestNames request ruleNames rules

def rulesOf (model : Model) (text : String) : List (List String) :=
  match model.policy with
  | some _ => RuleFile.rules "p" text
  | none => []

/-- A kind takes two names or three. -/
def roleKindsFault? (model : Model) : Option EngineFault :=
  if model.roles.all fun kind => kind.names = 2 || kind.names = 3 then none
  else some .roleDefinition

def roleRulesFault? (model : Model) (text : String) : Option EngineFault :=
  model.roles.findSome? fun kind =>
    (RuleFile.rules kind.name text).findSome? fun rule =>
      if rule.length < kind.names then some (.ruleSize kind.names rule.length) else none

def engine (model : Model) (text : String) : Engine where
  weigh := model.weigh (model.rulesOf text)
  rules := model.rulesOf text

end Model

namespace Engine

def ofGrants (grants : List (List String)) (failing : List String) : Engine where
  weigh := fun subject path method =>
    if subject ∈ failing then .failed (.invalidModel ("broken for " ++ subject))
    else if [subject, path, method] ∈ grants then .allowed
    else .refused
  rules := grants

end Engine

end RoleGrants
