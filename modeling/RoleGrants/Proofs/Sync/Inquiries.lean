import RoleGrants.Proofs.Sync.Beside
import RoleGrants.Proofs.Sync.Enforced

/-! # Requests among installations

A request is weighed subject by subject, and between two of them anything may happen to the
service: passes fail, come out empty or swap generations (`Desk.Step`).  An inquiry holds
the generation that was live when it looked at the handle, so it comes to the ruling of
this one generation (`Inquiry.advanceFor_eq`), whatever happens meanwhile. -/

set_option autoImplicit false

namespace RoleGrants

/-! ## One request, step by step -/

inductive Inquiry where
  | weighing (held : Generation) (path method : String) (left : List String)
  | ruled (ruling : Ruling)

namespace Inquiry

def begin (authorizer : Authorizer) (current : Option Generation) (request : Request) : Inquiry :=
  if !authorizer.enabled || authorizer.rules.bypasses request.path then .ruled (.decided .skipped)
  else
    match current with
    | none => .ruled (.decided (.deny .notLoaded))
    | some generation => .weighing generation request.path request.method request.subjects

def advance : Inquiry → Inquiry
  | .weighing _ _ _ [] => .ruled (.decided (.deny .noMatchingRole))
  | .weighing held path method (subject :: left) =>
      match held.engine.weigh subject path method with
      | .allowed => .ruled (.decided .allow)
      | .refused => .weighing held path method left
      | .failed error => .ruled (.failed error)
      | .aborted => .ruled .aborted
  | .ruled ruling => .ruled ruling

def advanceFor : Nat → Inquiry → Inquiry
  | 0, inquiry => inquiry
  | fuel + 1, inquiry => advanceFor fuel inquiry.advance

def destination : Inquiry → Ruling
  | .weighing held path method left => Authorizer.weighSubjects held.engine path method left
  | .ruled ruling => ruling

def distance : Inquiry → Nat
  | .weighing _ _ _ left => left.length + 1
  | .ruled _ => 0

theorem destination_begin (authorizer : Authorizer) (current : Option Generation)
    (request : Request) :
    (begin authorizer current request).destination = authorizer.decide current request := by
  unfold begin Authorizer.decide
  split
  · rfl
  · cases current <;> rfl

theorem distance_begin_le (authorizer : Authorizer) (current : Option Generation)
    (request : Request) :
    (begin authorizer current request).distance ≤ request.subjects.length + 1 := by
  unfold begin
  split
  · exact Nat.zero_le _
  · cases current with
    | none => exact Nat.zero_le _
    | some generation => exact Nat.le_refl _

theorem destination_advance (inquiry : Inquiry) :
    inquiry.advance.destination = inquiry.destination := by
  cases inquiry with
  | ruled ruling => rfl
  | weighing held path method left =>
      cases left with
      | nil => rfl
      | cons subject left =>
          rw [advance, destination, Authorizer.weighSubjects]
          cases held.engine.weigh subject path method <;> rfl

theorem distance_advance_le (inquiry : Inquiry) :
    inquiry.advance.distance ≤ inquiry.distance - 1 := by
  cases inquiry with
  | ruled ruling => exact Nat.le_refl 0
  | weighing held path method left =>
      cases left with
      | nil => exact Nat.zero_le _
      | cons subject left =>
          rw [advance]
          cases held.engine.weigh subject path method with
          | refused => exact Nat.le_refl _
          | _ => exact Nat.zero_le _

theorem advanceFor_eq {fuel : Nat} {inquiry : Inquiry} (near : inquiry.distance ≤ fuel) :
    advanceFor fuel inquiry = .ruled inquiry.destination := by
  induction fuel generalizing inquiry with
  | zero =>
      cases inquiry with
      | ruled ruling => rfl
      | weighing held path method left => cases near
  | succ fuel ih =>
      have nearer : inquiry.advance.distance ≤ fuel :=
        Nat.le_trans inquiry.distance_advance_le (by omega)
      rw [advanceFor, ih nearer, destination_advance]

end Inquiry

/-! ## Requests and a service -/

structure Desk where
  service : Service
  inquiries : List Inquiry := []

namespace Desk

def asked (desk : Desk) (request : Request) : Desk :=
  { desk with
    inquiries := desk.inquiries ++
      [.begin desk.service.authorizer desk.service.handle.current request] }

def advanced (desk : Desk) (index : Nat) : Desk :=
  { desk with inquiries := desk.inquiries.modify index Inquiry.advance }

/-- One thing that happens: to the service, with engines of any kind, or to a request. -/
inductive Step (desk : Desk) : Desk → Prop
  | served (after : Service)
      (happens : desk.service.Happens (fun _ => True) (Service.Beside fun _ => True) after) :
      Step desk { desk with service := after }
  | asked (request : Request) : Step desk (desk.asked request)
  | advanced (index : Nat) : Step desk (desk.advanced index)

def Steps : Desk → Desk → Prop :=
  Relation.ReflTransGen Step

theorem steps_of_runs {service after : Service}
    (run : Service.Runs (fun _ => True) (Service.Beside fun _ => True) service after)
    (inquiries : List Inquiry) : Steps ⟨service, inquiries⟩ ⟨after, inquiries⟩ := by
  refine Relation.ReflTransGen.lift (Desk.mk · inquiries) ?_ service after run
  intro before next happens
  exact Step.served next happens

/-! ## Where inquiries are going -/

/-- The inquiry at a place is going to a ruling, in so many steps at most. -/
def Bound (desk : Desk) (index : Nat) (ruling : Ruling) (fuel : Nat) : Prop :=
  ∃ inquiry, desk.inquiries[index]? = some inquiry ∧ inquiry.destination = ruling ∧
    inquiry.distance ≤ fuel

variable {desk next last : Desk} {index fuel : Nat} {ruling : Ruling}

theorem bound_asked (desk : Desk) (request : Request) :
    (desk.asked request).Bound desk.inquiries.length
      (desk.service.authorizer.decide desk.service.handle.current request)
      (request.subjects.length + 1) := by
  refine ⟨_, ?_, Inquiry.destination_begin _ _ request, Inquiry.distance_begin_le _ _ request⟩
  rw [asked, List.getElem?_concat_length]

theorem Bound.step (bound : desk.Bound index ruling fuel) (step : desk.Step next) :
    next.Bound index ruling fuel := by
  obtain ⟨inquiry, found, going, near⟩ := bound
  cases step with
  | served after happens => exact ⟨inquiry, found, going, near⟩
  | asked request =>
      have inRange := (List.getElem?_eq_some_iff.mp found).1
      refine ⟨inquiry, ?_, going, near⟩
      rw [asked, List.getElem?_append_left inRange, found]
  | advanced other =>
      by_cases same : other = index
      · refine ⟨inquiry.advance, ?_, inquiry.destination_advance.trans going, ?_⟩
        · simp only [advanced, List.getElem?_modify, if_pos same, found, Option.map_eq_map,
            Option.map_some]
        · have nearer := inquiry.distance_advance_le
          omega
      · refine ⟨inquiry, ?_, going, near⟩
        simp only [advanced, List.getElem?_modify, if_neg same, found, Option.map_eq_map,
          Option.map_some]

theorem Bound.steps (bound : desk.Bound index ruling fuel) (run : desk.Steps last) :
    last.Bound index ruling fuel := by
  induction run with
  | refl => exact bound
  | tail _ step ih => exact ih.step step

end Desk

/-! ## Generations that are counted -/

def Handle.IsCounted (handle : Handle) : Prop :=
  (handle.current = none ∧ handle.installed = 0) ∨
    ∃ generation, handle.current = some generation ∧ generation.id = handle.installed ∧
      0 < handle.installed

namespace Desk

variable {desk next last : Desk}

theorem counted_step (step : desk.Step next) (counted : desk.service.handle.IsCounted) :
    next.service.handle.IsCounted ∧
      (desk.service.handle.isLoaded = true → next.service.handle.isLoaded = true) := by
  cases step with
  | asked request => exact ⟨counted, id⟩
  | advanced index => exact ⟨counted, id⟩
  | served after happens =>
      rcases happens.handle with same | ⟨pass, compiled, engine, _, _, installed⟩
      · rw [same]
        exact ⟨counted, id⟩
      · rw [installed]
        exact ⟨.inr ⟨_, rfl, rfl, Nat.succ_pos _⟩, fun _ => rfl⟩

theorem counted_steps (run : desk.Steps last) (counted : desk.service.handle.IsCounted) :
    last.service.handle.IsCounted ∧
      (desk.service.handle.isLoaded = true → last.service.handle.isLoaded = true) := by
  induction run with
  | refl => exact ⟨counted, id⟩
  | tail _ step ih =>
      obtain ⟨before, front⟩ := ih
      obtain ⟨after, back⟩ := counted_step step before
      exact ⟨after, fun loaded => back (front loaded)⟩

end Desk

/-- Whatever the passes do while requests are weighed: a request that is put before anything
is installed is denied as such, one that is put later is ruled on by the one generation that
was live then, and what is loaded stays loaded. -/
theorem requests_are_ruled_by_one_generation (service : Service) (unloaded : service.handle = {})
    (desk : Desk) (run : Desk.Steps { service := service } desk) :
    (∀ later, desk.Steps later → desk.service.handle.isLoaded = true →
        later.service.handle.isLoaded = true) ∧
      ∀ request, desk.service.authorizer.enabled = true →
        desk.service.authorizer.rules.bypasses request.path = false →
          ∃ ruling, ruling = (desk.service.authorize request).2 ∧
            (desk.service.handle.installed = 0 → ruling = .decided (.deny .notLoaded)) ∧
            (0 < desk.service.handle.installed → ∃ generation,
              desk.service.handle.current = some generation ∧
              generation.id = desk.service.handle.installed ∧
              ruling = Authorizer.weighSubjects generation.engine request.path request.method
                request.subjects) ∧
            ∀ later, (desk.asked request).Steps later →
              ∃ inquiry, later.inquiries[desk.inquiries.length]? = some inquiry ∧
                (∀ other, inquiry = .ruled other → other = ruling) ∧
                inquiry.advanceFor (request.subjects.length + 1) = .ruled ruling := by
  have counted : desk.service.handle.IsCounted := by
    refine (Desk.counted_steps run (.inl ?_)).1
    rw [unloaded]
    exact ⟨rfl, rfl⟩
  refine ⟨fun later onward => (Desk.counted_steps onward counted).2, ?_⟩
  intro request enabled checked
  have decided := Service.authorize_of_checked enabled checked
  refine ⟨_, rfl, ?_, ?_, ?_⟩
  · intro uninstalled
    rcases counted with ⟨current, _⟩ | ⟨_, _, _, installed⟩
    · rw [decided, current]
    · omega
  · intro installed
    rcases counted with ⟨_, uninstalled⟩ | ⟨generation, current, id, _⟩
    · omega
    · exact ⟨generation, current, id, by rw [decided, current]⟩
  -- Once begun, an inquiry holds its generation: its destination is settled by the first look.
  · intro later onward
    obtain ⟨inquiry, found, going, near⟩ := (desk.bound_asked request).steps onward
    rw [Service.authorize_snd, ← going]
    refine ⟨inquiry, found, ?_, Inquiry.advanceFor_eq near⟩
    rintro other rfl
    rfl

/-! ## A swap between two subjects -/

namespace Service

def swapped (service : Service) (caller : Caller) (engine : Engine) : Service :=
  ((((service.begin caller).1.advanceTo isBuilding).supply engine).advanceTo isEnded).conclude.1

theorem runs_swapped (service : Service) (caller : Caller) (engine : Engine)
    (building : ((service.begin caller).1.advanceTo isBuilding).isAt isBuilding = true) :
    Runs (fun _ => True) (Beside fun _ => True) service (service.swapped caller engine) := by
  have arrived : Runs (fun _ => True) (Beside fun _ => True) service
      ((service.begin caller).1.advanceTo isBuilding) :=
    .head (.begun caller) (runs_advanceTo (fun _ _ => trivial) _)
  have supplied := arrived.tail (.changed _ (beside_supply building engine trivial))
  exact (supplied.trans (runs_advanceTo (fun _ _ => trivial) _)).tail .concluded

end Service

def Desk.reloaded (service : Service) (request : Request) (engine : Engine) : Desk :=
  { (Desk.asked ⟨service, []⟩ request).advanced 0 with service := service.swapped .reload engine }

theorem Desk.steps_reloaded (service : Service) (request : Request) (engine : Engine)
    (building : ((service.begin .reload).1.advanceTo Service.isBuilding).isAt
      Service.isBuilding = true) :
    (Desk.asked ⟨service, []⟩ request).Steps (Desk.reloaded service request engine) :=
  (Relation.ReflTransGen.single (.advanced 0)).trans
    (steps_of_runs (service.runs_swapped .reload engine building) _)

/-- The generation that is held allows what the live one fails to weigh. -/
theorem held_generation_rules_after_a_swap :
    ∃ later : Desk,
      (later.service.authorize ⟨["x", "r"], "/a", "GET"⟩).2 =
        .failed (.invalidModel "broken for x") ∧
      ∃ inquiry, later.inquiries[0]? = some inquiry ∧
        inquiry.advanceFor 3 = .ruled (.decided .allow) := by
  have built : (((oneGrantService "/a").begin .load).1.advanceTo Service.isBuilding).isAt
      Service.isBuilding = true := by decide +kernel
  -- The services stay closed: they are evaluated here and nowhere else.
  obtain ⟨loaded, later, same, reloaded, rebuilt, failed, allowed, authorizer⟩ :
      ∃ (loaded : Service) (later : Desk),
        loaded = (oneGrantService "/a").swapped .load (.ofGrants [["r", "/a", "GET"]] []) ∧
        later = .reloaded loaded ⟨["x", "r"], "/a", "GET"⟩
          (.ofGrants [["r", "/a", "GET"]] ["x"]) ∧
        ((loaded.begin .reload).1.advanceTo Service.isBuilding).isAt Service.isBuilding = true ∧
        (later.service.authorize ⟨["x", "r"], "/a", "GET"⟩).2 =
          .failed (.invalidModel "broken for x") ∧
        (loaded.authorize ⟨["x", "r"], "/a", "GET"⟩).2 = .decided .allow ∧
        loaded.authorizer = {} := ⟨_, _, rfl, rfl, by decide +kernel⟩
  have loading : Desk.Steps { service := oneGrantService "/a" } ⟨loaded, []⟩ := by
    rw [same]
    exact Desk.steps_of_runs (Service.runs_swapped _ .load _ built) []
  have swapping : (Desk.asked ⟨loaded, []⟩ ⟨["x", "r"], "/a", "GET"⟩).Steps later := by
    rw [reloaded]
    exact Desk.steps_reloaded loaded _ _ rebuilt
  obtain ⟨_, ruled⟩ := requests_are_ruled_by_one_generation (oneGrantService "/a") rfl _ loading
  obtain ⟨ruling, own, _, _, ruled⟩ := ruled ⟨["x", "r"], "/a", "GET"⟩
    (by rw [authorizer]) (by rw [authorizer]; decide)
  obtain ⟨inquiry, found, _, arrived⟩ := ruled later swapping
  rw [own, allowed] at arrived
  exact ⟨later, failed, inquiry, found, arrived⟩

end RoleGrants
