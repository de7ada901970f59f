import RoleGrants.Proofs.Engine.PlainRoutes
import RoleGrants.Proofs.Policy.Callers
import RoleGrants.Proofs.Sync.Beside
import RoleGrants.Proofs.Sync.Enforced

/-! # No engine without rules

An engine of the built-in model that holds no rule allows the request of three empty
texts (`Model.weigh_nil_eq_allowed_iff`).  No such engine becomes live: what the workers
hand over is clean of lines that a policy file cannot carry, an empty policy ends its pass,
and the check of the rules lets no other engine through.  So a live engine allows nothing
that such a file could not say (`unstorable_requests_are_not_allowed`), whatever fails and
whatever files were there before. -/

set_option autoImplicit false

namespace RoleGrants

/-! ## What workers hand over -/

def Compiled.IsClean (compiled : Compiled) : Prop :=
  ∀ line ∈ compiled.lines, line.isStorable = true

namespace Pool

structure IsClean (pool : Pool) : Prop where
  parts : ∀ worker ∈ pool.workers, (part worker).IsClean
  merged : pool.merged.IsClean
  outcome : ∀ compiled, pool.outcome = some (.ok compiled) → compiled.IsClean

variable {formatter : Formatter} {pool next : Pool}

theorem isClean_start (size : PoolSize) (feed : List Holding) : (start size feed).IsClean where
  parts worker member := by
    rw [(List.mem_replicate.mp member).2]
    exact fun line held => absurd held List.not_mem_nil
  merged := fun line held => absurd held List.not_mem_nil
  outcome := nofun

theorem isClean_addLine {base : Compiled} (clean : base.IsClean) (line : Line) :
    (addLine base line).IsClean := by
  rw [addLine_eq]
  split
  next storable =>
    intro other member
    rcases List.mem_cons.mp member with rfl | held
    · exact storable
    · exact clean other held
  next => exact clean

theorem isClean_absorb {whole base : Compiled} (clean : whole.IsClean) (added : base.IsClean) :
    (whole.absorb base).IsClean := by
  intro line member
  rcases (Line.strictOrder.mem_insertAll base.lines whole.lines line).mp member with new | old
  · exact added line new
  · exact clean line old

theorem IsClean.withWorker (clean : pool.IsClean) {index : Nat} {old new : Worker}
    (found : pool.workers[index]? = some old) (kept : (part old).IsClean → (part new).IsClean) :
    (pool.withWorker index new).IsClean where
  parts worker member := by
    rcases List.mem_or_eq_of_mem_set member with stays | rfl
    · exact clean.parts worker stays
    · exact kept (clean.parts old (List.mem_of_getElem? found))
  merged := clean.merged
  outcome := clean.outcome

theorem IsClean.step (clean : pool.IsClean) (stepped : Stepped formatter pool next) :
    next.IsClean := by
  have nothing : ({} : Compiled).IsClean := fun line held => absurd held List.not_mem_nil
  cases stepped with
  | sent holding feed fed room => exact ⟨clean.parts, clean.merged, clean.outcome⟩
  | closed fed unclosed => exact ⟨clean.parts, clean.merged, clean.outcome⟩
  | acquired index base found => exact clean.withWorker found id
  | received index base holding queue found queued =>
      have taken : (pool.withWorker index
          (.working (Pool.received base holding) holding.roleId holding.resources)).IsClean :=
        clean.withWorker found id
      exact ⟨taken.parts, taken.merged, taken.outcome⟩
  | rested index base roleId found => exact clean.withWorker found id
  | formatted index base roleId resource rest line found made =>
      exact clean.withWorker found fun part => isClean_addLine part line
  | crashed index base roleId resource rest found unmade =>
      exact clean.withWorker found fun _ => nothing
  | left index base found closed empty => exact clean.withWorker found id
  | joined index base found closed =>
      have gone : (pool.withWorker index .joined).IsClean := clean.withWorker found fun _ => nothing
      have ended : base.IsClean := clean.parts _ (List.mem_of_getElem? found)
      exact ⟨gone.parts, isClean_absorb clean.merged ended, gone.outcome⟩
  | failed index found closed =>
      have gone : (pool.withWorker index .joined).IsClean := clean.withWorker found fun _ => nothing
      exact ⟨gone.parts, gone.merged, nofun⟩
  | finished closed all =>
      refine ⟨clean.parts, clean.merged, ?_⟩
      intro compiled same
      cases same
      exact clean.merged

end Pool

/-! ## Engines that are let through -/

/-- The engine decides by its rules, of which there are some, and a policy file can carry each
of them. -/
def Engine.IsGuarded (engine : Engine) : Prop :=
  engine.rules ≠ [] ∧ ∃ lines : List Line, (∀ line ∈ lines, line.isStorable = true) ∧
    ∀ subject path method, (engine.weigh subject path method).Tells lines subject path method

theorem isGuarded_of_perm {compiled : Compiled} {text : String} (nonempty : compiled.lines ≠ [])
    (clean : compiled.IsClean)
    (same : (compiled.lines.map Line.rule).Perm (roleModel.engine text).rules) :
    (roleModel.engine text).IsGuarded := by
  obtain ⟨lines, members, tells⟩ := exists_lines_told nonempty same
  refine ⟨?_, lines, fun line member => clean line ((members line).mp member), tells⟩
  intro empty
  rw [empty] at same
  exact nonempty (List.map_eq_nil_iff.mp same.eq_nil)

namespace Engine

variable {engine : Engine} {subject path method : String}

theorem IsGuarded.storable_of_allowed (guarded : engine.IsGuarded)
    (allowed : engine.weigh subject path method = .allowed) :
    isStorable subject = true ∧ isStorable method = true := by
  obtain ⟨_, lines, storable, tells⟩ := guarded
  have told := tells subject path method
  rw [allowed] at told
  obtain ⟨line, member, own, _, called⟩ := told
  obtain ⟨first, _, third⟩ := line.isStorable_iff.mp (storable line member)
  exact ⟨own ▸ first, called ▸ third⟩

end Engine

namespace Service

/-- Engines come from the files, if they come at all, and the model file is the built-in one, if
it can be read. -/
structure BuildsNoOther (service : Service) : Prop where
  reports : service.workshop.report = id
  model : ∀ text, service.files.readText service.settings.modelPath = .ok text →
    text = builtInModel

def OnlyBuiltIn (service : Service) : Prop :=
  service.isAt isBuilding = true → service.BuildsNoOther

theorem EmbedsModel.onlyBuiltIn {service : Service} (embeds : service.EmbedsModel) :
    service.OnlyBuiltIn := by
  intro building
  have builtIn := embeds building
  refine ⟨builtIn.reports, ?_⟩
  intro text read
  rw [builtIn.model] at read
  cases read
  rfl

theorem exists_model_of_built {service : Service} {engine : Engine}
    (made : service.buildEngine.2 = .ok engine) :
    service.workshop.refusal = none ∧
      ∃ text, service.files.readText service.settings.modelPath = .ok text := by
  rw [buildEngine] at made
  split at made
  next => cases made
  next unrefused =>
    refine ⟨unrefused, ?_⟩
    cases read : service.files.readText service.settings.modelPath with
    | error cause =>
        simp only [Engine.ofFiles, read] at made
        cases made
    | ok text => exact ⟨text, rfl⟩

theorem exists_text_of_built {service : Service} (builtIn : service.BuildsNoOther)
    {engine : Engine} (made : service.buildEngine.2 = .ok engine) :
    ∃ text, engine = roleModel.engine text := by
  obtain ⟨unrefused, text, read⟩ := exists_model_of_built made
  have whole : service.BuildsBuiltIn :=
    ⟨unrefused, builtIn.reports, builtIn.model text read ▸ read⟩
  obtain ⟨rules, _, same⟩ := (buildEngine_builtIn whole engine).mp made
  exact ⟨rules, same⟩

end Service

/-! ## Runs -/

def Compiled.IsGuarded (compiled : Compiled) : Prop :=
  compiled.lines ≠ [] ∧ compiled.IsClean

/-- What a pass at this stage would bring into force is guarded. -/
def Stage.IsGuarded : Stage → Prop
  | .compiling pool => pool.IsClean
  | .publishing compiled _ => compiled.IsGuarded
  | .building compiled => compiled.IsGuarded
  | .installing _ engine => engine.IsGuarded
  | _ => True

namespace Service

/-- Whatever is in force, and whatever the running pass would bring into force, is guarded. -/
structure Secured (service : Service) : Prop where
  live : ∀ generation, service.handle.current = some generation → generation.engine.IsGuarded
  stage : ∀ pass, service.sync.pass = some pass → pass.stage.IsGuarded

variable {service after : Service} {pass : Pass} {move : Move}

theorem isGuarded_moved (onlyBuiltIn : service.OnlyBuiltIn)
    (running : service.sync.pass = some pass) (guarded : pass.stage.IsGuarded)
    (moved : Moved service pass move after) :
    ∃ next, after.sync.pass = some next ∧ next.stage.IsGuarded := by
  cases moved with
  | gathered holdings here => exact ⟨_, rfl, Pool.isClean_start _ holdings⟩
  | compiled pool next event here stepped =>
      rw [here] at guarded
      exact ⟨_, rfl, guarded.step (Pool.stepped_of_step? stepped).2⟩
  | received pool compiled here outcome some_ =>
      rw [here] at guarded
      refine ⟨_, rfl, ?_, guarded.outcome compiled outcome⟩
      intro empty
      rw [Compiled.isEmpty, empty] at some_
      cases some_
  | publishing compiled publish here =>
      rw [here] at guarded
      exact ⟨_, rfl, guarded⟩
  | published compiled publish here done =>
      rw [here] at guarded
      exact ⟨_, rfl, guarded⟩
  | built compiled engine here made equal =>
      have builtIn := onlyBuiltIn (by rw [isAt_eq running, here]; rfl)
      obtain ⟨text, rfl⟩ := exists_text_of_built builtIn made
      rw [here] at guarded
      exact ⟨_, rfl, isGuarded_of_perm guarded.1 guarded.2 (rules_perm_of_verifyRules equal)⟩
  | _ => exact ⟨_, rfl, trivial⟩

theorem Secured.redirected (secured : service.Secured) (handle : after.handle = service.handle)
    (stage : ∀ next, after.sync.pass = some next → next.stage.IsGuarded) : after.Secured where
  live generation current := secured.live generation (handle ▸ current)
  stage := stage

theorem Secured.moved (secured : service.Secured) (onlyBuiltIn : service.OnlyBuiltIn)
    (running : service.sync.pass = some pass) (moved : Moved service pass move after) :
    after.Secured := by
  have guarded := secured.stage pass running
  obtain ⟨next, rest, carried⟩ := isGuarded_moved onlyBuiltIn running guarded moved
  refine ⟨?_, ?_⟩
  · intro generation current
    rcases moved.handle with same | ⟨compiled, engine, here, installed⟩
    · exact secured.live generation (same ▸ current)
    · rw [installed] at current
      cases current
      rw [here] at guarded
      exact guarded
  · intro other ran
    cases (rest.symm.trans ran)
    exact carried

theorem Secured.beside (secured : service.Secured) (beside : service.Beside (fun _ => False) after) :
    after.Secured := by
  refine secured.redirected beside.handle ?_
  intro next ran
  cases beside with
  | elsewhere _ handle sync => exact secured.stage next (sync ▸ ran)
  | worked pass pool other formatter event running here stepped =>
      have guarded := secured.stage pass running
      rw [here] at guarded
      cases ran
      exact guarded.step (Pool.stepped_of_step? stepped).2
  | supplied pass compiled answer made running here => exact made.elim
  | givenUp pass running waiting => cases ran

theorem Secured.happens (secured : service.Secured)
    (step : Happens OnlyBuiltIn (Beside fun _ => False) service after) : after.Secured := by
  rcases step.told with handover | ⟨pass, move, running, onlyBuiltIn, moved⟩ | beside
  · exact secured.redirected handover.handle (handover.stage trivial secured.stage)
  · exact secured.moved onlyBuiltIn running moved
  · exact secured.beside beside

theorem Secured.runs (secured : service.Secured)
    (run : Runs OnlyBuiltIn (Beside fun _ => False) service after) : after.Secured := by
  induction run with
  | refl => exact secured
  | tail _ step ih => exact ih.happens step

end Service

open Service

/-- Whatever fails, and whatever the store and the files hold: the live engine has rules, and no
request is allowed whose subjects or whose method no policy file can carry, although an engine
without rules would allow the request of three empty texts. -/
theorem unstorable_requests_are_not_allowed (started service : Service)
    (unloaded : started.handle.current = none) (unbegun : started.sync.pass = none)
    (run : Runs OnlyBuiltIn (Beside fun _ => False) started service) :
    (∀ text, (roleModel.engine text).rules = [] → ∀ subject path method,
        (roleModel.engine text).weigh subject path method = .allowed ↔
          subject = "" ∧ path = "" ∧ method = "") ∧
      (∀ generation, service.handle.current = some generation → generation.engine.rules ≠ []) ∧
      ∀ request : Request, service.authorizer.enabled = true →
        service.authorizer.rules.bypasses request.path = false →
          ((∀ subject ∈ request.subjects, isStorable subject = false) ∨
            isStorable request.method = false) →
              (service.authorize request).2 ≠ .decided .allow := by
  have begun : started.Secured := by
    refine ⟨?_, ?_⟩
    · intro generation current
      rw [unloaded] at current
      cases current
    · intro pass running
      rw [unbegun] at running
      cases running
  have secured := begun.runs run
  refine ⟨?_, fun generation current => (secured.live generation current).1, ?_⟩
  · intro text empty subject path method
    have ruleless : (roleModel.engine text).weigh = roleModel.weigh [] := by
      rw [← empty]
      rfl
    rw [ruleless]
    exact Model.weigh_nil_eq_allowed_iff subject path method
  · intro request enabled checked unstorable allowed
    rw [authorize_of_checked enabled checked] at allowed
    cases current : service.handle.current with
    | none =>
        rw [current] at allowed
        cases allowed
    | some generation =>
        rw [current] at allowed
        -- Some rule has allowed a subject, and its fields are those of a line that a file can
        -- carry.
        obtain ⟨subject, member, weighed⟩ := Authorizer.exists_allowed_of_weighSubjects allowed
        obtain ⟨own, called⟩ := (secured.live generation current).storable_of_allowed weighed
        rcases unstorable with subjects | method
        · rw [subjects subject member] at own
          cases own
        · rw [method] at called
          cases called

/-- The small service allows its role what it is granted, and no one for want of rules. -/
theorem empty_texts_are_denied_beside_one_grant :
    ((loadedOneGrant "/a").conclude.1.authorize ⟨["r"], "/a", "GET"⟩).2 = .decided .allow ∧
      ((loadedOneGrant "/a").conclude.1.authorize ⟨["", " r"], "", ""⟩).2 ≠ .decided .allow := by
  let building := ((oneGrantService "/a").begin .load).1.advanceTo isBuilding
  have loading : (building.files.readText "/model.conf").toOption = some builtInModel ∧
      (building.files.readText "/policy.csv").toOption = some "p, r, /a, GET\n" ∧
      building.isAt isBuilding = true := by decide +kernel
  obtain ⟨model, policy, here⟩ := loading
  have allowed : ((loadedOneGrant "/a").conclude.1.authorize ⟨["r"], "/a", "GET"⟩).2 =
      .decided .allow := by
    rw [loadedOneGrant_eq rfl model policy here]
    decide +kernel
  have run : Runs OnlyBuiltIn (Beside fun _ => False) (oneGrantService "/a")
      (loadedOneGrant "/a").conclude.1 :=
    ((runs_loadedOneGrant "/a" _ model).mono (fun _ embeds => embeds.onlyBuiltIn)
      fun _ _ beside => beside).tail .concluded
  have authorizer := authorizer_loadedOneGrant "/a" model
  obtain ⟨_, _, denied⟩ := unstorable_requests_are_not_allowed (oneGrantService "/a")
    (loadedOneGrant "/a").conclude.1 rfl rfl run
  refine ⟨allowed, denied ⟨["", " r"], "", ""⟩ ?_ ?_ (.inr (by decide))⟩
  · rw [authorizer]
  · rw [authorizer]
    decide

end RoleGrants
