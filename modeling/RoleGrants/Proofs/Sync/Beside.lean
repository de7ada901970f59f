import RoleGrants.Proofs.Sync.Runs

/-! # What happens beside the moves

Beside the moves that a pass makes, anything may change around it but the generations
and the passes, a worker of its pool may make another line or crash, its engine may come
from another maker, and its caller may give it up where it waits (`Service.Beside`).
The handle changes in none of this: it changes only where a pass installs an engine
(`Service.Happens.handle`). -/

set_option autoImplicit false

namespace RoleGrants

/-- The pass waits for something here, so that its caller can give it up. -/
def Stage.isWaiting : Stage → Bool
  | .installing _ _ => false
  | .finished _ => false
  | .ended _ => false
  | _ => true

namespace Service

def receiveEngine (service : Service) (pass : Pass) (compiled : Compiled) :
    Except PolicyError Engine → Service
  | .error error => service.finishPass pass (.error error)
  | .ok engine =>
      match verifyRules compiled engine with
      | .error error => service.finishPass pass (.error error)
      | .ok () => service.toStage pass (.installing compiled engine)

def giveUp (service : Service) : Service :=
  { service with sync := { service.sync with pass := none } }

theorem pass_giveUp (service : Service) : service.giveUp.sync.pass = none :=
  rfl

/-- What may happen beside the moves; `makes` says which answers another maker of engines
gives. -/
inductive Beside (makes : Except PolicyError Engine → Prop) (service : Service) : Service → Prop
  | elsewhere (after : Service) (handle : after.handle = service.handle)
      (sync : after.sync = service.sync) : Beside makes service after
  | worked (pass : Pass) (pool next : Pool) (formatter : Formatter) (event : Pool.Event)
      (running : service.sync.pass = some pass) (here : pass.stage = .compiling pool)
      (stepped : pool.step? formatter event = some next) :
      Beside makes service (service.toStage pass (.compiling next))
  | supplied (pass : Pass) (compiled : Compiled) (answer : Except PolicyError Engine)
      (made : makes answer) (running : service.sync.pass = some pass)
      (here : pass.stage = .building compiled) :
      Beside makes service (service.receiveEngine pass compiled answer)
  | givenUp (pass : Pass) (running : service.sync.pass = some pass)
      (waiting : pass.stage.isWaiting = true) : Beside makes service service.giveUp

/-! ## Engines that are given -/

theorem buildForPass_eq (service : Service) (pass : Pass) (compiled : Compiled) :
    service.buildForPass pass compiled =
      service.buildEngine.1.receiveEngine pass compiled service.buildEngine.2 := by
  rw [buildForPass]
  cases service.buildEngine with
  | mk after answer =>
      cases answer with
      | error error => rfl
      | ok engine => rfl

theorem receiveEngine_cases (service : Service) (pass : Pass) (compiled : Compiled)
    (answer : Except PolicyError Engine) :
    (∃ error, service.receiveEngine pass compiled answer =
        service.toStage pass (.finished (.error error))) ∨
      ∃ engine, answer = .ok engine ∧ verifyRules compiled engine = .ok () ∧
        service.receiveEngine pass compiled answer =
          service.toStage pass (.installing compiled engine) := by
  cases answer with
  | error error => exact .inl ⟨error, rfl⟩
  | ok engine =>
      rw [receiveEngine]
      cases checked : verifyRules compiled engine with
      | error error => exact .inl ⟨error, rfl⟩
      | ok _ => exact .inr ⟨engine, rfl, checked, rfl⟩

def supply (service : Service) (engine : Engine) : Service :=
  match service.sync.pass with
  | none => service
  | some pass =>
      match pass.stage with
      | .building compiled => service.receiveEngine pass compiled (.ok engine)
      | _ => service

theorem supply_eq {service : Service} {pass : Pass} {compiled : Compiled}
    (running : service.sync.pass = some pass) (here : pass.stage = .building compiled)
    (engine : Engine) :
    service.supply engine = service.receiveEngine pass compiled (.ok engine) := by
  simp only [supply, running, here]

theorem beside_supply {makes : Except PolicyError Engine → Prop} {service : Service}
    (building : service.isAt isBuilding = true) (engine : Engine) (made : makes (.ok engine)) :
    Beside makes service (service.supply engine) := by
  obtain ⟨pass, running, arrived⟩ := exists_pass_of_isAt building
  obtain ⟨compiled, here⟩ := exists_of_isBuilding arrived
  rw [supply_eq running here]
  exact .supplied pass compiled _ made running here

/-! ## The handle -/

theorem footing_buildEngine (service : Service) :
    service.buildEngine.1.handle = service.handle ∧
      service.buildEngine.1.sync = service.sync := by
  obtain ⟨built, same⟩ := service.exists_built_buildEngine
  rw [same]
  exact ⟨rfl, rfl⟩

theorem Moved.handle {service after : Service} {pass : Pass} {move : Move}
    (moved : Moved service pass move after) :
    after.handle = service.handle ∨
      ∃ compiled engine, pass.stage = .installing compiled engine ∧
        after.handle = (service.installation pass compiled engine).1 := by
  have unbuilding := (footing_buildEngine service).1
  cases moved with
  | installed compiled engine here => exact .inr ⟨compiled, engine, here, rfl⟩
  | unbuilt compiled error here failed => exact .inl unbuilding
  | mismatched compiled engine error here made unequal => exact .inl unbuilding
  | built compiled engine here made equal => exact .inl unbuilding
  | _ => exact .inl rfl

theorem Beside.handle {makes : Except PolicyError Engine → Prop} {service after : Service}
    (beside : Beside makes service after) : after.handle = service.handle := by
  cases beside with
  | elsewhere _ handle sync => exact handle
  | worked pass pool next formatter event running here stepped => rfl
  | supplied pass compiled answer made running here =>
      rcases receiveEngine_cases service pass compiled answer with ⟨_, same⟩ | ⟨_, _, _, same⟩
      · rw [same]
        rfl
      · rw [same]
        rfl
  | givenUp pass running waiting => rfl

theorem Happens.handle {allowed : Service → Prop} {makes : Except PolicyError Engine → Prop}
    {service after : Service} (step : Happens allowed (Beside makes) service after) :
    after.handle = service.handle ∨
      ∃ pass compiled engine, service.sync.pass = some pass ∧
        pass.stage = .installing compiled engine ∧
        after.handle = (service.installation pass compiled engine).1 := by
  rcases step.told with handover | ⟨pass, move, running, _, moved⟩ | beside
  · exact .inl handover.handle
  · rcases moved.handle with same | ⟨compiled, engine, here, installed⟩
    · exact .inl same
    · exact .inr ⟨pass, compiled, engine, running, here, installed⟩
  · exact .inl beside.handle

end Service
end RoleGrants
