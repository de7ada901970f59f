import RoleGrants.Proofs.Engine.BuiltIn
import RoleGrants.Proofs.Policy.RoundTrip
import RoleGrants.Proofs.Sync.Beside

/-! # Engines of a pass

An engine that is built from the built-in model holds the rules of the policy file
(`buildEngine_builtIn`), and the rules of a rendered policy pass the check against
its lines (`verifyRules_render`).  The check is passed by the engines that hold the
lines in some order, and by no others (`IsPolicyOf.verifyRules_iff`). -/

set_option autoImplicit false

namespace RoleGrants

theorem IsPolicyOf.rules_render {holdings : List Holding} {compiled : Compiled}
    (policy : IsPolicyOf holdings compiled) :
    RuleFile.rules "p" compiled.render = compiled.lines.map Line.rule := by
  refine RuleFile.rules_render (fun line member => ((policy.mem_lines line).mp member).1) ?_
  refine policy.ascends.imp ?_
  rintro left _ above rfl
  exact Line.strictOrder.irreflexive left above

theorem IsPolicyOf.fields_render {holdings : List Holding} {compiled : Compiled}
    (policy : IsPolicyOf holdings compiled) :
    (RuleFile.linesOf compiled.render).filterMap RuleFile.fields? =
      compiled.lines.map fun line => "p" :: line.rule :=
  RuleFile.fields_render fun line member => ((policy.mem_lines line).mp member).1

theorem rules_engine_render {holdings : List Holding} {compiled : Compiled}
    (policy : IsPolicyOf holdings compiled) :
    (roleModel.engine compiled.render).rules = compiled.lines.map Line.rule :=
  policy.rules_render

theorem rules_perm_of_verifyRules {compiled : Compiled} {engine : Engine}
    (equal : verifyRules compiled engine = .ok ()) :
    (compiled.lines.map Line.rule).Perm engine.rules := by
  rw [verifyRules] at equal
  split at equal
  next same =>
    rw [← same]
    exact List.mergeSort_perm engine.rules _
  · cases equal

theorem IsPolicyOf.verifyRules_iff {holdings : List Holding} {compiled : Compiled}
    (policy : IsPolicyOf holdings compiled) (engine : Engine) :
    verifyRules compiled engine = .ok () ↔ engine.rules.Perm (compiled.lines.map Line.rule) := by
  constructor
  · exact fun equal => (rules_perm_of_verifyRules equal).symm
  · intro same
    have ascends : (compiled.lines.map Line.rule).Pairwise fun left right => left < right :=
      List.Pairwise.map Line.rule (fun _ _ above => above) policy.ascends
    rw [verifyRules, sortBy_of_perm rule_strictOrder ascends same]
    exact if_pos rfl

theorem verifyRules_render {holdings : List Holding} {compiled : Compiled}
    (policy : IsPolicyOf holdings compiled) :
    verifyRules compiled (roleModel.engine compiled.render) = .ok () := by
  rw [policy.verifyRules_iff, rules_engine_render policy]

namespace Service

structure BuildsBuiltIn (service : Service) : Prop where
  unrefused : service.workshop.refusal = none
  reports : service.workshop.report = id
  model : service.files.readText service.settings.modelPath = .ok builtInModel

/-- Wherever an engine is to be built it comes of the built-in model. -/
def EmbedsModel (service : Service) : Prop :=
  service.isAt isBuilding = true → service.BuildsBuiltIn

theorem buildEngine_builtIn {service : Service} (builtIn : service.BuildsBuiltIn)
    (engine : Engine) :
    service.buildEngine.2 = .ok engine ↔
      ∃ text, service.files.readText service.settings.policyPath = .ok text ∧
        engine = roleModel.engine text := by
  have fromFiles := ofFiles_builtIn service.settings.policyPath engine builtIn.model
  rw [← fromFiles, buildEngine, builtIn.unrefused]
  simp only
  cases Engine.ofFiles service.files service.settings.modelPath service.settings.policyPath with
  | error cause => simp
  | ok made => simp [builtIn.reports]

def countBuilt (service : Service) : Service :=
  { service with workshop := { service.workshop with built := service.workshop.built + 1 } }

theorem buildEngine_eq {service : Service} (builtIn : service.BuildsBuiltIn) {text : String}
    (policy : service.files.readText service.settings.policyPath = .ok text) :
    service.buildEngine = (service.countBuilt, .ok (roleModel.engine text)) := by
  have made := (ofFiles_builtIn service.settings.policyPath _ builtIn.model).mpr ⟨text, policy, rfl⟩
  rw [buildEngine, builtIn.unrefused]
  simp only [made, builtIn.reports, id, countBuilt]

/-- Building comes to the engine of the policy that is there, without a look at the model. -/
theorem advance_eq_supply {service : Service} (builtIn : service.BuildsBuiltIn) {text : String}
    (policy : service.files.readText service.settings.policyPath = .ok text)
    (building : service.isAt isBuilding = true) :
    service.advance = service.countBuilt.supply (roleModel.engine text) := by
  obtain ⟨pass, running, arrived⟩ := exists_pass_of_isAt building
  obtain ⟨compiled, here⟩ := exists_of_isBuilding arrived
  have made : service.move? .onward = some (service.buildForPass pass compiled) := by
    simp only [move?, running, here]
  have onward : nextMove? pass.stage = some .onward := by
    rw [here]
    rfl
  simp only [advance, running, onward, Option.bind_some, made, Option.getD_some]
  rw [buildForPass_eq, buildEngine_eq builtIn policy]
  have counted : service.countBuilt.sync.pass = some pass := running
  exact (supply_eq counted here _).symm

/-- The moves of a pass to its end, where the engine is built of the built-in model. -/
theorem runs_through_building {around : Service → Service → Prop} {service : Service}
    (builtIn : (service.advanceTo isBuilding).BuildsBuiltIn) :
    Runs EmbedsModel around service ((service.advanceTo isBuilding).advance.advanceTo
      fun stage => isEnded stage || isBuilding stage) := by
  have before : Runs EmbedsModel around service (service.advanceTo isBuilding) :=
    runs_advanceTo (fun _ unbuilt building => absurd building (Bool.eq_false_iff.mp unbuilt)) _
  refine (before.trans (runs_advance _ fun _ => builtIn)).trans (runs_advanceTo ?_ _)
  intro other going building
  obtain ⟨pass, running, here⟩ := exists_pass_of_isAt building
  rw [isAt_eq running, here, Bool.or_true] at going
  cases going

end Service

/-! ## A small service -/

def oneGrantService (path : String) : Service where
  store.memory.roles := Table.empty.insert "r" { id := "r" }
  store.memory.menus := Table.empty.insert "m" { id := "m" }
  store.memory.links := Table.empty.insert "r" ["m"]
  store.memory.resources := Table.empty.insert "1" ⟨"1", "m", "GET", path⟩
  files.nodes := Table.empty.insert "/model.conf" (.file builtInModel false)
  settings.modelPath := "/model.conf"
  settings.policyPath := "/policy.csv"

namespace Service

theorem runs_load_oneGrant (path : String) (around : Service → Service → Prop) :
    Runs EmbedsModel around (oneGrantService path)
      (((oneGrantService path).begin .load).1.advanceTo isBuilding) :=
  .trans (.single (.begun .load)) (runs_advanceTo
    (fun _ unbuilt building => absurd building (Bool.eq_false_iff.mp unbuilt)) _)

theorem buildsBuiltIn_oneGrant (path : String)
    (read : ((((oneGrantService path).begin .load).1.advanceTo isBuilding).files.readText
      "/model.conf").toOption = some builtInModel) :
    (((oneGrantService path).begin .load).1.advanceTo isBuilding).BuildsBuiltIn := by
  have kept := Runs.keeps (fun _ _ change => change.elim)
    (runs_load_oneGrant path fun _ _ => False)
  refine ⟨kept.refusal, kept.report, ?_⟩
  rw [kept.settings]
  exact ok_of_toOption read

end Service
end RoleGrants
