import RoleGrants.Engine.Basic
import RoleGrants.Files.Tree

/-! # Engines from files

The model file is read before the file of rules.  A model that cannot be read
is invalid, and the text says which file it is.  The kinds of roles that the
model defines are looked at before the rules are read, and their rules after. -/

set_option autoImplicit false

namespace RoleGrants

def badModel (path : PathName) (cause : OsError) : EngineError :=
  .invalidModel (path ++ ": " ++ (EngineFault.file cause).message)

def Engine.ofFiles (files : Files) (modelPath policyPath : PathName) :
    Except EngineError Engine :=
  match files.readText modelPath with
  | .error cause => .error (badModel modelPath cause)
  | .ok modelText =>
      match Model.ofText modelText with
      | .error line => .error (badModel modelPath (.other ("parse content error, line=" ++ line)))
      | .ok model =>
          match model.roleKindsFault? with
          | some fault => .error (.fault fault)
          | none =>
              match files.readText policyPath with
              | .error cause => .error (.fault (.file cause))
              | .ok rules =>
                  match model.roleRulesFault? rules with
                  | some fault => .error (.fault fault)
                  | none => .ok (model.engine rules)

end RoleGrants
