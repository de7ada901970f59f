import RoleGrants.Policy.Generation
import RoleGrants.Policy.Error

/-! # Authorization

A request passes when one of the caller's roles is allowed to call its method
on its path.  Without a generation, without roles and without a role that
matches it is denied.  A path outside the allowed beginnings, or under a
skipped one, is not checked; nor is any path while enforcement is off. -/

set_option autoImplicit false

namespace RoleGrants

inductive DenyReason where
  | notLoaded
  | noMatchingRole
  deriving DecidableEq, Repr

def DenyReason.name : DenyReason → String
  | .notLoaded => "not_loaded"
  | .noMatchingRole => "no_matching_role"

inductive Decision where
  | allow
  | skipped
  | deny (reason : DenyReason)
  deriving DecidableEq, Repr

namespace Decision

def isAllowed : Decision → Bool
  | .allow => true
  | .skipped => true
  | .deny _ => false

def label : Decision → String
  | .allow => "allow"
  | .skipped => "skipped"
  | .deny reason => "deny_" ++ reason.name

def document : Decision → Document
  | .allow => .ofFields [("decision", .text "allow")]
  | .skipped => .ofFields [("decision", .text "skipped")]
  | .deny reason => .ofFields [("decision", .text "deny"), ("reason", .text reason.name)]

end Decision

structure PathRules where
  allowed : List String := []
  skipped : List String := []
  deriving DecidableEq, Repr, Inhabited

def PathRules.bypasses (rules : PathRules) (path : String) : Bool :=
  let begins := fun start => Text.startsWith path start
  !(rules.allowed.isEmpty || rules.allowed.any begins) || rules.skipped.any begins

structure Request where
  subjects : List String
  path : String
  method : String
  deriving DecidableEq, Repr, Inhabited

def Request.layout : Layout Request where
  name := "AuthorizeRequest"
  blank := ⟨[], "", ""⟩
  slots :=
    [("subjects", .texts fun value request => { request with subjects := value }),
     ("path", .text fun value request => { request with path := value }),
     ("method", .text fun value request => { request with method := value })]
  required := ["subjects", "path", "method"]

def Request.document (request : Request) : Document :=
  .ofFields
    [("subjects", .ofTexts request.subjects), ("path", .text request.path),
     ("method", .text request.method)]

inductive Ruling where
  | decided (decision : Decision)
  | failed (error : EngineError)
  | aborted
  deriving DecidableEq, Repr

structure Authorizer where
  rules : PathRules := {}
  enabled : Bool := true
  deriving DecidableEq, Repr, Inhabited

namespace Authorizer

def weighSubjects (engine : Engine) (path method : String) : List String → Ruling
  | [] => .decided (.deny .noMatchingRole)
  | subject :: subjects =>
      match engine.weigh subject path method with
      | .allowed => .decided .allow
      | .refused => weighSubjects engine path method subjects
      | .failed error => .failed error
      | .aborted => .aborted

/-- The generation is looked up once, and serves the whole decision. -/
def decide (authorizer : Authorizer) (current : Option Generation) (request : Request) : Ruling :=
  if !authorizer.enabled || authorizer.rules.bypasses request.path then .decided .skipped
  else
    match current with
    | none => .decided (.deny .notLoaded)
    | some generation =>
        weighSubjects generation.engine request.path request.method request.subjects

end Authorizer

end RoleGrants
