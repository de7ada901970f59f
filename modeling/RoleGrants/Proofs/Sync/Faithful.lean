import RoleGrants.Proofs.Policy.Publishing
import RoleGrants.Proofs.Pool.Schedules
import RoleGrants.Proofs.Sync.Building

/-! # Policies on their way through the files

While nothing but the passes writes files, the file that a pass builds its engine
from holds the text that the pass has rendered.  What was compiled is then what the
engine holds: the check of its rules never fails.  `Carried` is what a pass has in
its hands at each stage. -/

set_option autoImplicit false

namespace RoleGrants.Service

def KeepsFiles (service after : Service) : Prop :=
  after.files = service.files ∧ after.settings = service.settings ∧ after.sync = service.sync

def IsMismatch (error : PolicyError) : Prop :=
  ∃ compiled loaded, error = .mismatch compiled loaded

/-- What a pass has of its policy at a stage. -/
def Carried (service : Service) : Stage → Prop
  | .compiling pool => ∃ holdings, Pool.Sound holdings pool
  | .publishing compiled publish =>
      (∃ holdings, IsPolicyOf holdings compiled) ∧ publish.path = service.settings.policyPath ∧
        publish.text = compiled.render ∧ publish.Faithful service.files
  | .building compiled =>
      (∃ holdings, IsPolicyOf holdings compiled) ∧
        service.files.readText service.settings.policyPath = .ok compiled.render
  | .finished (.error error) => ¬ IsMismatch error
  | .ended (.outcome (.error error)) => ¬ IsMismatch error
  | _ => True

theorem Carried.of_same {service after : Service} {stage : Stage}
    (files : after.files = service.files)
    (settings : after.settings = service.settings) (carried : service.Carried stage) :
    after.Carried stage := by
  unfold Carried at carried ⊢
  simp only [files, settings]
  exact carried

theorem carried_answerOf {service : Service} {pass : Pass} {result : Except PolicyError PassOutcome}
    (carried : service.Carried (.finished result)) :
    service.Carried (.ended (answerOf pass result)) := by
  unfold answerOf
  cases pass.caller with
  | tick =>
      rcases result with error | ⟨generation⟩ | _
      all_goals trivial
  | _ =>
      cases result with
      | error error => exact carried
      | ok outcome => trivial

/-- The engine of a pass that has published its policy passes the check. -/
theorem build_of_carried {service : Service} {compiled : Compiled}
    (builtIn : service.BuildsBuiltIn) (carried : service.Carried (.building compiled)) :
    ∃ engine, service.buildEngine.2 = .ok engine ∧
      engine.rules = compiled.lines.map Line.rule ∧ verifyRules compiled engine = .ok () := by
  obtain ⟨⟨holdings, policy⟩, published⟩ := carried
  exact ⟨roleModel.engine compiled.render,
    (buildEngine_builtIn builtIn _).mpr ⟨_, published, rfl⟩, rules_engine_render policy,
    verifyRules_render policy⟩

theorem carried_moved {service after : Service} {pass : Pass} {move : Move}
    (running : service.sync.pass = some pass) (embeds : service.EmbedsModel)
    (carried : service.Carried pass.stage) (moved : Moved service pass move after) :
    ∃ next, after.sync.pass = some next ∧ after.Carried next.stage := by
  have other : ∀ {error : PolicyError}, (∀ compiled loaded, error ≠ .mismatch compiled loaded) →
      ¬ IsMismatch error := by
    rintro error apart ⟨compiled, loaded, same⟩
    exact apart compiled loaded same
  cases moved with
  | informed signal here known newer => exact ⟨_, rfl, trivial⟩
  | uninformed error here unknown caller => exact ⟨_, rfl, trivial⟩
  | idle here known caller => exact ⟨_, rfl, trivial⟩
  | unchanged marker here known caller covered => exact ⟨_, rfl, trivial⟩
  | unavailable error here unknown caller => exact ⟨_, rfl, trivial⟩
  | unlisted error here refused => exact ⟨_, rfl, other (by simp)⟩
  | tooDeep here deep => exact ⟨_, rfl, trivial⟩
  | listed roles here answered fits => exact ⟨_, rfl, trivial⟩
  | asked jobs holdings index job here found undone => exact ⟨_, rfl, trivial⟩
  | held jobs holdings index roleId resources here found => exact ⟨_, rfl, trivial⟩
  | lost jobs holdings index roleId error here found => exact ⟨_, rfl, trivial⟩
  | gathered holdings here => exact ⟨_, rfl, holdings, Pool.Sound.start _ holdings⟩
  | compiled pool next event here stepped =>
      rw [here] at carried
      obtain ⟨holdings, sound⟩ := carried
      exact ⟨_, rfl, holdings, sound.step stepped⟩
  | uncompiled pool text here outcome => exact ⟨_, rfl, other (by simp)⟩
  | empty pool compiled here outcome none_ => exact ⟨_, rfl, trivial⟩
  | received pool compiled here outcome some_ =>
      rw [here] at carried
      obtain ⟨holdings, sound⟩ := carried
      obtain ⟨same, equal, policy⟩ := sound.outcome_isPolicyOf outcome
      cases equal
      exact ⟨_, rfl, ⟨holdings, policy⟩, rfl, rfl, trivial⟩
  | publishing compiled publish here =>
      rw [here] at carried
      obtain ⟨policy, path, text, faithful⟩ := carried
      refine ⟨_, rfl, policy, ?_, ?_, Publish.faithful_advance faithful⟩
      · exact (Publish.advance_path service.files publish).trans path
      · exact (Publish.advance_text service.files publish).trans text
  | published compiled publish here done =>
      rw [here] at carried
      obtain ⟨policy, path, text, faithful⟩ := carried
      rw [Publish.Faithful, done, path, text] at faithful
      exact ⟨_, rfl, policy, faithful⟩
  | unpublished compiled publish error here failed =>
      rw [here] at carried
      obtain ⟨policy, path, text, faithful⟩ := carried
      rw [Publish.Faithful, failed] at faithful
      obtain ⟨place, cause, rfl⟩ := faithful
      exact ⟨_, rfl, other (by simp)⟩
  | unbuilt compiled error here failed =>
      rw [here] at carried
      have builtIn := embeds (by rw [isAt_eq running, here]; rfl)
      obtain ⟨engine, made, _⟩ := build_of_carried builtIn carried
      rw [made] at failed
      cases failed
  | mismatched compiled engine error here made unequal =>
      rw [here] at carried
      have builtIn := embeds (by rw [isAt_eq running, here]; rfl)
      obtain ⟨right, rightMade, _, equal⟩ := build_of_carried builtIn carried
      rw [rightMade] at made
      cases made
      rw [equal] at unequal
      cases unequal
  | built compiled engine here made equal => exact ⟨_, rfl, trivial⟩
  | installed compiled engine here => exact ⟨_, rfl, trivial⟩
  | recorded result here =>
      rw [here] at carried
      exact ⟨_, rfl, carried_answerOf carried⟩

theorem carried_of_runs {started service : Service} (unbegun : started.sync.pass = none)
    (run : Runs EmbedsModel KeepsFiles started service) :
    ∀ pass, service.sync.pass = some pass → service.Carried pass.stage := by
  induction run with
  | refl =>
      intro pass running
      rw [unbegun] at running
      cases running
  | tail run step ih =>
      intro pass running
      rcases step.told with handover | ⟨moving, move, ran, embeds, moved⟩ | ⟨files, settings, sync⟩
      · exact (handover.stage trivial ih pass running).of_same handover.files
          handover.keeps.settings
      · obtain ⟨next, rest, carried⟩ := carried_moved ran embeds (ih moving ran) moved
        rw [rest] at running
        cases running
        exact carried
      · rw [sync] at running
        exact (ih pass running).of_same files settings

end RoleGrants.Service

namespace RoleGrants

open Service

/-- A policy file reads back as the lines that it was rendered from, three fields each and
nothing more, so no pass fails on the check of its rules. -/
theorem rendered_policy_loads_as_compiled :
    (∀ (workers depth : Nat) (arrival : List Holding) (compiled : Compiled),
      Pool.Yields (PoolSize.raised workers depth) arrival compiled →
        (RuleFile.linesOf compiled.render).filterMap RuleFile.fields? =
            compiled.lines.map (fun line => ["p", line.subject, line.object, line.action]) ∧
          RuleFile.rules "p" compiled.render =
            compiled.lines.map (fun line => [line.subject, line.object, line.action])) ∧
      ∀ (started service : Service) (pass : Pass), started.sync.pass = none →
        Runs EmbedsModel KeepsFiles started service → service.sync.pass = some pass →
          (∀ compiled, pass.stage = .building compiled → service.BuildsBuiltIn →
            ∃ engine, service.buildEngine.2 = .ok engine ∧
              engine.rules = compiled.lines.map Line.rule ∧
              verifyRules compiled engine = .ok ()) ∧
          ∀ error, pass.stage = .finished (.error error) ∨
              pass.stage = .ended (.outcome (.error error)) →
            ∀ compiled loaded, error ≠ .mismatch compiled loaded := by
  refine ⟨?_, ?_⟩
  · intro workers depth arrival compiled yields
    exact ⟨yields.isPolicyOf.fields_render, yields.isPolicyOf.rules_render⟩
  · intro started service pass unbegun run running
    have carried := carried_of_runs unbegun run pass running
    refine ⟨?_, ?_⟩
    · intro compiled here builtIn
      rw [here] at carried
      exact build_of_carried builtIn carried
    · rintro error (here | here) compiled loaded same
      · rw [here] at carried
        exact carried ⟨compiled, loaded, same⟩
      · rw [here] at carried
        exact carried ⟨compiled, loaded, same⟩

/-- The file of one grant reads back as that grant, and the pass of a load builds from it. -/
theorem one_grant_loads_as_compiled :
    (RuleFile.linesOf (policyOf [⟨"r", [⟨"1", "m", "GET", "/a"⟩]⟩]).render).filterMap
        RuleFile.fields? = [["p", "r", "/a", "GET"]] ∧
      ∃ service pass compiled engine,
        Runs EmbedsModel KeepsFiles (oneGrantService "/a") service ∧
        service.sync.pass = some pass ∧ pass.stage = .building compiled ∧
        service.buildEngine.2 = .ok engine ∧ engine.rules = compiled.lines.map Line.rule ∧
        verifyRules compiled engine = .ok () := by
  obtain ⟨readsBack, builds⟩ := rendered_policy_loads_as_compiled
  refine ⟨?_, ?_⟩
  · have made : compile (PoolSize.raised 1 1) [⟨"r", [⟨"1", "m", "GET", "/a"⟩]⟩] =
        .made (policyOf [⟨"r", [⟨"1", "m", "GET", "/a"⟩]⟩]) := by decide +kernel
    have lines : (policyOf [⟨"r", [⟨"1", "m", "GET", "/a"⟩]⟩]).lines = [⟨"r", "/a", "GET"⟩] := by
      decide +kernel
    have fields := (readsBack 1 1 _ _ (Pool.yields_of_compile made)).1
    rw [lines] at fields
    exact fields
  · have run := runs_load_oneGrant "/a" KeepsFiles
    have arrived :
        (((oneGrantService "/a").begin .load).1.advanceTo isBuilding).isAt isBuilding = true := by
      decide +kernel
    have builtIn := buildsBuiltIn_oneGrant "/a" (by decide +kernel)
    generalize ((oneGrantService "/a").begin .load).1.advanceTo isBuilding = service
      at run arrived builtIn
    obtain ⟨pass, running, building⟩ := exists_pass_of_isAt arrived
    obtain ⟨compiled, here⟩ := exists_of_isBuilding building
    obtain ⟨engine, made, rules, equal⟩ :=
      (builds (oneGrantService "/a") service pass rfl run running).1 compiled here builtIn
    exact ⟨service, pass, compiled, engine, run, running, here, made, rules, equal⟩

end RoleGrants
