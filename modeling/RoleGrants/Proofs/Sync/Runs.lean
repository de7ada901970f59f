import Mathlib.Logic.Relation
import RoleGrants.Proofs.Sync.Moves

/-! # Runs of a service

Calls begin, passes make their moves and give their place back, and in between
something around the service changes.  A run is any sequence of these; what is
allowed to move and what may change around the service are parameters, so that a
result can say how much of it it bears.

An invariant is shown for a call that begins or ends, for a move, and for what is around
(`Happens.told`). -/

set_option autoImplicit false

namespace RoleGrants.Service

inductive Happens (allowed : Service → Prop) (around : Service → Service → Prop)
    (service : Service) : Service → Prop
  | begun (caller : Caller) : Happens allowed around service (service.begin caller).1
  | moved (move : Move) (after : Service) (free : allowed service)
      (made : service.move? move = some after) : Happens allowed around service after
  | concluded : Happens allowed around service service.conclude.1
  | changed (after : Service) (change : around service after) : Happens allowed around service after

def Runs (allowed : Service → Prop) (around : Service → Service → Prop) :
    Service → Service → Prop :=
  Relation.ReflTransGen (Happens allowed around)

theorem Runs.mono {allowed freer : Service → Prop} {around wider : Service → Service → Prop}
    (frees : ∀ service, allowed service → freer service)
    (widens : ∀ service after, around service after → wider service after)
    {started service : Service} (run : Runs allowed around started service) :
    Runs freer wider started service := by
  refine Relation.ReflTransGen.mono ?_ started service run
  intro before after step
  cases step with
  | begun caller => exact .begun caller
  | moved move _ free made => exact .moved move _ (frees before free) made
  | concluded => exact .concluded
  | changed _ change => exact .changed _ (widens before _ change)

theorem begin_cases (service : Service) (caller : Caller) :
    (service.sync.pass = none ∧ (service.begin caller).1 = service.enter caller) ∨
      ∃ metrics, (service.begin caller).1 = service.counting metrics := by
  cases running : service.sync.pass with
  | none =>
      left
      simp only [begin, running, and_self]
  | some pass =>
      right
      simp only [begin, running]
      cases caller with
      | load => exact ⟨service.metrics, rfl⟩
      | reload => exact ⟨service.metrics, rfl⟩
      | tick => exact ⟨service.metrics.ticksSkipped 1, rfl⟩

theorem conclude_cases (service : Service) :
    (∃ pass answer, service.sync.pass = some pass ∧ pass.stage = .ended answer ∧
        service.conclude =
          ({ service with sync := { service.sync with pass := none } }, some answer)) ∨
      service.conclude = (service, none) := by
  rw [conclude]
  cases running : service.sync.pass with
  | none => exact .inr rfl
  | some pass =>
      cases here : pass.stage with
      | ended answer =>
          simp only [here]
          exact .inl ⟨pass, answer, rfl, here, rfl⟩
      | _ => simp only [here, or_true]

theorem isAt_eq {service : Service} {pass : Pass} (running : service.sync.pass = some pass)
    (here : Stage → Bool) : service.isAt here = here pass.stage := by
  rw [isAt, running]

theorem exists_pass_of_isAt {service : Service} {here : Stage → Bool}
    (arrived : service.isAt here = true) :
    ∃ pass, service.sync.pass = some pass ∧ here pass.stage = true := by
  rw [isAt] at arrived
  split at arrived
  next pass running => exact ⟨pass, running, arrived⟩
  · cases arrived

theorem exists_of_isBuilding {stage : Stage} (building : isBuilding stage = true) :
    ∃ compiled, stage = .building compiled := by
  cases stage with
  | building compiled => exact ⟨compiled, rfl⟩
  | _ => cases building

/-- What the beginning of a call and the end of one have in common: at most the counters and the
pass change, and a pass that did not run before has only entered. -/
structure Handover (service after : Service) : Prop where
  rest : ∃ metrics pass, after =
    { service with metrics := metrics, sync := { service.sync with pass := pass } }
  pass : ∀ running, after.sync.pass = some running →
    service.sync.pass = some running ∨ running.stage = .entered

theorem handover_begin (service : Service) (caller : Caller) :
    Handover service (service.begin caller).1 := by
  rcases service.begin_cases caller with ⟨_, entered⟩ | ⟨metrics, same⟩
  · rw [entered]
    refine ⟨⟨service.metrics, some { caller := caller }, rfl⟩, ?_⟩
    intro running ran
    cases ran
    exact .inr rfl
  · rw [same]
    exact ⟨⟨metrics, service.sync.pass, rfl⟩, fun _ => .inl⟩

theorem handover_conclude (service : Service) : Handover service service.conclude.1 := by
  rcases service.conclude_cases with ⟨_, _, _, _, same⟩ | same
  · rw [same]
    refine ⟨⟨service.metrics, none, rfl⟩, ?_⟩
    intro running ran
    cases ran
  · rw [same]
    exact ⟨⟨service.metrics, service.sync.pass, rfl⟩, fun _ => .inl⟩

namespace Handover

variable {service after : Service}

theorem keeps (handover : Handover service after) : service.Keeps after := by
  obtain ⟨_, _, rfl⟩ := handover.rest
  exact ⟨rfl, rfl, rfl, rfl, rfl, rfl⟩

theorem handle (handover : Handover service after) : after.handle = service.handle := by
  obtain ⟨_, _, rfl⟩ := handover.rest
  rfl

theorem files (handover : Handover service after) : after.files = service.files := by
  obtain ⟨_, _, rfl⟩ := handover.rest
  rfl

theorem stage {stages : Stage → Prop} (handover : Handover service after)
    (entered : stages .entered)
    (before : ∀ pass, service.sync.pass = some pass → stages pass.stage) :
    ∀ pass, after.sync.pass = some pass → stages pass.stage := by
  intro pass running
  rcases handover.pass pass running with ran | new
  · exact before pass ran
  · rw [new]
    exact entered

end Handover

theorem Happens.told {allowed : Service → Prop} {around : Service → Service → Prop}
    {service after : Service} (step : Happens allowed around service after) :
    Handover service after ∨
      (∃ pass move, service.sync.pass = some pass ∧ allowed service ∧
        Moved service pass move after) ∨
      around service after := by
  cases step with
  | begun caller => exact .inl (service.handover_begin caller)
  | moved move _ free made =>
      obtain ⟨pass, running, moved⟩ := moved_of_move? made
      exact .inr (.inl ⟨pass, move, running, free, moved⟩)
  | concluded => exact .inl service.handover_conclude
  | changed _ change => exact .inr (.inr change)

/-- What no move touches stays in a run as long as nothing around changes it. -/
theorem Runs.keeps {allowed : Service → Prop} {around : Service → Service → Prop}
    (calm : ∀ service after, around service after → service.Keeps after)
    {started service : Service} (run : Runs allowed around started service) :
    started.Keeps service := by
  induction run with
  | refl => exact ⟨rfl, rfl, rfl, rfl, rfl, rfl⟩
  | tail run step ih =>
      rcases step.told with handover | ⟨pass, move, _, _, moved⟩ | change
      · exact ih.trans handover.keeps
      · exact ih.trans moved.keeps
      · exact ih.trans (calm _ _ change)

/-! ## Moves in a row -/

section

variable {allowed : Service → Prop} {around : Service → Service → Prop} {stop : Stage → Bool}

theorem runs_advance (service : Service) (free : allowed service) :
    Runs allowed around service service.advance := by
  rw [advance]
  cases service.sync.pass with
  | none => exact .refl
  | some pass =>
      simp only
      cases made : (nextMove? pass.stage).bind service.move? with
      | none => exact .refl
      | some after =>
          obtain ⟨move, _, made⟩ := Option.bind_eq_some_iff.mp made
          exact .single (.moved move after free made)

variable (free : ∀ service : Service, service.isAt stop = false → allowed service)
include free

theorem runs_advanceFor (fuel : Nat) (service : Service) :
    Runs allowed around service (advanceFor stop fuel service) := by
  induction fuel generalizing service with
  | zero => exact .refl
  | succ fuel ih =>
      rw [advanceFor]
      split
      · exact .refl
      next going => exact (runs_advance service (free service (by simpa using going))).trans (ih _)

theorem runs_advanceTo (service : Service) :
    Runs allowed around service (service.advanceTo stop) := by
  have through : ∀ (stages : Nat) (service : Service),
      Runs allowed around service (advanceThrough stop stages service) := by
    intro stages
    induction stages with
    | zero => exact fun _ => .refl
    | succ stages ih =>
        intro service
        exact (runs_advanceFor free service.stageFuel service).trans (ih _)
  exact through 9 service

end

end RoleGrants.Service
