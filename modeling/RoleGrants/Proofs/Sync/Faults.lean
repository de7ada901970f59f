import RoleGrants.Proofs.Sync.Beside
import RoleGrants.Proofs.Sync.Guarded

/-! # Where a decision is aborted

A path that makes no pattern is compiled, published, built and checked like any other.
It is met by the decisions that come to its line: for one of the subjects of the request,
with nothing before it that covers the request (`ComesTo`).  A decision over the built-in
model is aborted there and nowhere else, and it never fails (`weighSubjects_aborted_iff`).

Every line that is in force has its path from a row of the store (`Sourced`), so that no
decision is aborted as long as all paths that are stored make patterns of a modest size. -/

set_option autoImplicit false

namespace RoleGrants

/-! ## Lines in order -/

/-- Weighing a request of the subject goes through the lines to one of its own that has such an
object. -/
def Meets (such : String → Prop) (lines : List Line) (subject path method : String) : Prop :=
  ∃ front line back, lines = front ++ line :: back ∧
    (∀ earlier ∈ front, ¬ earlier.Covers subject path method) ∧
    line.subject = subject ∧ such line.object

/-- One of the subjects meets such a line, and no line covers the request for one before it. -/
def ComesTo (such : String → Prop) (lines : List Line) (request : Request) : Prop :=
  ∃ before subject after, request.subjects = before ++ subject :: after ∧
    (∀ other ∈ before, ∀ line ∈ lines, ¬ line.Covers other request.path request.method) ∧
    Meets such lines subject request.path request.method

variable {such : String → Prop}

theorem ComesTo.mono {lines : List Line} {request : Request} {other : String → Prop}
    (wider : ∀ object, such object → other object) (comes : ComesTo such lines request) :
    ComesTo other lines request := by
  obtain ⟨before, subject, after, split, apart, front, line, back, parted, uncovered, own, has⟩ :=
    comes
  exact ⟨before, subject, after, split, apart, front, line, back, parted, uncovered, own,
    wider line.object has⟩

theorem meets_cons {line : Line} {rest : List Line} {subject path method : String} :
    Meets such (line :: rest) subject path method ↔
      (line.subject = subject ∧ such line.object) ∨
        ¬ line.Covers subject path method ∧ Meets such rest subject path method := by
  constructor
  · rintro ⟨front, met, back, split, apart, own⟩
    cases front with
    | nil =>
        cases split
        exact .inl own
    | cons first front =>
        cases split
        obtain ⟨here, later⟩ := List.forall_mem_cons.mp apart
        exact .inr ⟨here, front, met, back, rfl, later, own⟩
  · rintro (own | ⟨here, front, met, back, rfl, later, own⟩)
    · exact ⟨[], line, rest, rfl, fun earlier member => absurd member List.not_mem_nil, own⟩
    · exact ⟨line :: front, met, back, rfl, List.forall_mem_cons.mpr ⟨here, later⟩, own⟩

def Faulty (object : String) : Prop :=
  RoutePattern.pattern? object = none

namespace Model

theorem weighRules_aborted_iff (matcher subject path method : String) (lines : List Line) :
    weighRules matcher ["sub", "obj", "act"] [subject, path, method] ["sub", "obj", "act"]
      (lines.map Line.rule) = .aborted ↔ Meets Faulty lines subject path method := by
  induction lines with
  | nil =>
      refine iff_of_false (by simp [weighRules]) ?_
      rintro ⟨front, line, back, split, _⟩
      cases front <;> cases split
  | cons line rest ih =>
      rw [List.map_cons, meets_cons]
      rcases weighRules_cons_cases matcher subject path method line (rest.map Line.rule) with
        ⟨own, faulty, aborted⟩ | ⟨sane, covers, allowed⟩ | ⟨sane, apart, onward⟩
      · exact iff_of_true aborted (.inl ⟨own, faulty⟩)
      · rw [allowed]
        refine iff_of_false (by simp) ?_
        rintro (⟨_, faulty⟩ | ⟨apart, _⟩)
        · exact sane faulty
        · exact apart covers
      · rw [onward, ih]
        constructor
        · exact fun later => .inr ⟨apart, later⟩
        · rintro (⟨own, faulty⟩ | ⟨_, later⟩)
          · exact absurd faulty (sane own)
          · exact later

theorem weigh_aborted_iff {rules : List (List String)} {lines : List Line} (nonempty : lines ≠ [])
    (own : rules = lines.map Line.rule) (subject path method : String) :
    roleModel.weigh rules subject path method = .aborted ↔
      Meets Faulty lines subject path method := by
  subst own
  obtain ⟨first, rest, rfl⟩ := List.exists_cons_of_ne_nil nonempty
  exact weighRules_aborted_iff _ subject path method (first :: rest)

end Model

/-! ## Engines in force -/

structure Engine.Holds (engine : Engine) (lines : List Line) : Prop where
  builtIn : ∃ text, engine = roleModel.engine text
  rules : engine.rules = lines.map Line.rule
  nonempty : lines ≠ []

namespace Engine.Holds

variable {engine : Engine} {lines : List Line}

theorem weigh_eq (holds : engine.Holds lines) : engine.weigh = roleModel.weigh engine.rules := by
  obtain ⟨text, rfl⟩ := holds.builtIn
  rfl

theorem tells (holds : engine.Holds lines) (subject path method : String) :
    (engine.weigh subject path method).Tells lines subject path method := by
  rw [holds.weigh_eq]
  exact Model.weigh_tells holds.nonempty holds.rules subject path method

theorem aborted_iff (holds : engine.Holds lines) (subject path method : String) :
    engine.weigh subject path method = .aborted ↔ Meets Faulty lines subject path method := by
  rw [holds.weigh_eq]
  exact Model.weigh_aborted_iff holds.nonempty holds.rules subject path method

end Engine.Holds

theorem comesTo_cons {lines : List Line} {subject : String} {subjects : List String}
    {path method : String} :
    ComesTo such lines ⟨subject :: subjects, path, method⟩ ↔
      Meets such lines subject path method ∨
        (∀ line ∈ lines, ¬ line.Covers subject path method) ∧
          ComesTo such lines ⟨subjects, path, method⟩ := by
  constructor
  · rintro ⟨before, other, after, split, apart, meets⟩
    cases before with
    | nil =>
        cases split
        exact .inl meets
    | cons first before =>
        cases split
        obtain ⟨here, later⟩ := List.forall_mem_cons.mp apart
        exact .inr ⟨here, before, other, after, rfl, later, meets⟩
  · rintro (meets | ⟨here, before, other, after, split, apart, meets⟩)
    · exact ⟨[], subject, subjects, rfl, fun other member => absurd member List.not_mem_nil, meets⟩
    · refine ⟨subject :: before, other, after, ?_, List.forall_mem_cons.mpr ⟨here, apart⟩, meets⟩
      exact congrArg (List.cons subject) split

/-- A decision over an engine of the built-in model. -/
theorem weighSubjects_aborted_iff {engine : Engine} {lines : List Line}
    (holds : engine.Holds lines) (path method : String) (subjects : List String) :
    (∀ error, Authorizer.weighSubjects engine path method subjects ≠ .failed error) ∧
      (Authorizer.weighSubjects engine path method subjects = .aborted ↔
        ComesTo Faulty lines ⟨subjects, path, method⟩) := by
  induction subjects with
  | nil =>
      rw [Authorizer.weighSubjects]
      refine ⟨by simp, iff_of_false (by simp) ?_⟩
      rintro ⟨before, subject, after, split, _⟩
      cases before <;> cases split
  | cons subject rest ih =>
      obtain ⟨unfailed, aborts⟩ := ih
      have told := holds.tells subject path method
      have meets := holds.aborted_iff subject path method
      rw [Authorizer.weighSubjects, comesTo_cons]
      -- The first subject ends the walk unless it is refused, and then no line covers the request
      -- for it.
      cases weighed : engine.weigh subject path method with
      | allowed =>
          rw [weighed] at told meets
          obtain ⟨line, member, covers⟩ := told
          refine ⟨by simp, iff_of_false (by simp) ?_⟩
          rintro (met | ⟨apart, _⟩)
          · cases meets.mpr met
          · exact apart line member covers
      | refused =>
          rw [weighed] at told meets
          refine ⟨unfailed, ?_⟩
          simp only [aborts]
          constructor
          · exact fun later => .inr ⟨told, later⟩
          · rintro (met | ⟨_, later⟩)
            · cases meets.mpr met
            · exact later
      | failed error =>
          rw [weighed] at told
          exact told.elim
      | aborted => exact ⟨by simp, iff_of_true rfl (.inl (meets.mp weighed))⟩

/-! ## Lines and the rows they come from -/

section Sources

variable (paths : String → Prop)

/-- The paths of the rows are among these. -/
def Sourced (rows : List Resource) : Prop :=
  ∀ row ∈ rows, paths row.path

def Gather.IsSourced : Gather → Prop
  | .done (.ok rows) => Sourced paths rows
  | _ => True

def Compiled.IsSourced (compiled : Compiled) : Prop :=
  compiled.lines ≠ [] ∧ ∀ line ∈ compiled.lines, line.isStorable = true ∧ paths line.object

def Engine.IsSourced (engine : Engine) : Prop :=
  ∃ lines, engine.Holds lines ∧ ∀ line ∈ lines, line.isStorable = true ∧ paths line.object

/-- What a pass at this stage has gathered and made has its paths from rows like these. -/
def Stage.IsSourced : Stage → Prop
  | .gathering jobs holdings =>
      (∀ job ∈ jobs, job.gather.IsSourced paths) ∧
        ∀ holding ∈ holdings, Sourced paths holding.resources
  | .compiling pool =>
      ∃ holdings, (∀ holding ∈ holdings, Sourced paths holding.resources) ∧ pool.Sound holdings
  | .publishing compiled _ => compiled.IsSourced paths
  | .building compiled => compiled.IsSourced paths
  | .installing _ engine => engine.IsSourced paths
  | _ => True

end Sources

variable {paths : String → Prop}

/-- Whatever answers it, a query for rows is answered with rows that are stored. -/
theorem mem_values_of_menuResources {access : StoreAccess} {known : List String}
    {rows : List Resource} (answered : access.queries.menuResources known = .ok rows) :
    ∀ row ∈ rows, row ∈ access.memory.resources.values := by
  intro row member
  simp only [StoreAccess.queries, Queries.refusing, Queries.orRefuse] at answered
  split at answered
  · cases answered
  · split at answered
    next =>
      cases answered
      exact (List.mem_filter.mp ((mem_sortBy Resource.id _ row).mp member)).1
    next =>
      simp only [Queries.ofDatabase] at answered
      split at answered
      · cases answered
        cases member
      · cases answered

namespace Gather

theorem isSourced_climb (known : List String) (frontier : List MenuRef) :
    (climb known frontier).IsSourced paths := by
  rw [climb]
  split <;> trivial

theorem IsSourced.advance {access : StoreAccess} {gather : Gather}
    (stored : Sourced paths access.memory.resources.values) (sourced : gather.IsSourced paths)
    (roleId : String) : (gather.advance access.queries roleId).IsSourced paths := by
  cases gather with
  | linked =>
      rw [Gather.advance]
      split
      · trivial
      · exact fun row member => absurd member List.not_mem_nil
      · exact isSourced_climb _ _
  | parents known wanted =>
      rw [Gather.advance]
      split
      · trivial
      · exact isSourced_climb _ _
  | collect known =>
      rw [Gather.advance]
      split
      next => trivial
      next rows answered =>
        intro row member
        have present := (dropRepeats_sortBy_keeps Resource.key rows).1 row member
        exact stored row (mem_values_of_menuResources answered row present)
  | done answer => exact sourced

end Gather

theorem isSourced_of_isPolicyOf {holdings : List Holding} {compiled : Compiled}
    (sourced : ∀ holding ∈ holdings, Sourced paths holding.resources)
    (policy : IsPolicyOf holdings compiled) (some_ : compiled.isEmpty = false) :
    compiled.IsSourced paths := by
  refine ⟨?_, ?_⟩
  · intro empty
    rw [Compiled.isEmpty, empty] at some_
    cases some_
  · intro line member
    obtain ⟨storable, holding, held, own⟩ := (policy.mem_lines line).mp member
    obtain ⟨row, present, rfl⟩ := List.mem_map.mp own
    exact ⟨storable, sourced holding held row present⟩

theorem isSourced_of_perm {compiled : Compiled} {text : String} (sourced : compiled.IsSourced paths)
    (same : (compiled.lines.map Line.rule).Perm (roleModel.engine text).rules) :
    (roleModel.engine text).IsSourced paths := by
  obtain ⟨nonempty, each⟩ := sourced
  obtain ⟨lines, rules, members⟩ := exists_lines_of_perm same
  refine ⟨lines, ⟨⟨text, rfl⟩, rules, ?_⟩, fun line member => each line ((members line).mp member)⟩
  rintro rfl
  rw [rules] at same
  exact nonempty (List.map_eq_nil_iff.mp same.eq_nil)

/-! ## Runs -/

namespace Service

/-- Around a service anything may change but the generations, as long as the paths stored stay
among these; the caller of a pass may give it up where it waits. -/
def KeepsPaths (paths : String → Prop) (service after : Service) : Prop :=
  after.handle = service.handle ∧ Sourced paths after.store.memory.resources.values ∧
    (after.sync = service.sync ∨
      ∃ pass, service.sync.pass = some pass ∧ pass.stage.isWaiting = true ∧
        after.sync = service.giveUp.sync)

structure IsSourced (paths : String → Prop) (service : Service) : Prop where
  stored : Sourced paths service.store.memory.resources.values
  live : ∀ generation, service.handle.current = some generation →
    generation.engine.IsSourced paths
  stage : ∀ pass, service.sync.pass = some pass → pass.stage.IsSourced paths

variable {service after : Service} {pass : Pass} {move : Move}

theorem isSourced_moved (stored : Sourced paths service.store.memory.resources.values)
    (onlyBuiltIn : service.OnlyBuiltIn) (running : service.sync.pass = some pass)
    (sourced : pass.stage.IsSourced paths) (moved : Moved service pass move after) :
    ∃ next, after.sync.pass = some next ∧ next.stage.IsSourced paths := by
  cases moved with
  | listed roles here answered fits =>
      refine ⟨_, rfl, ?_, fun holding member => absurd member List.not_mem_nil⟩
      intro job member
      obtain ⟨role, _, rfl⟩ := List.mem_map.mp member
      trivial
  | asked jobs holdings index job here found undone =>
      rw [here] at sourced
      obtain ⟨going, held⟩ := sourced
      refine ⟨_, rfl, ?_, held⟩
      intro other member
      rcases List.mem_or_eq_of_mem_set member with old | rfl
      · exact going other old
      · exact (going job (List.mem_of_getElem? found)).advance stored job.roleId
  | held jobs holdings index roleId resources here found =>
      rw [here] at sourced
      obtain ⟨going, held⟩ := sourced
      refine ⟨_, rfl, fun job member => going job (List.mem_of_mem_eraseIdx member), ?_⟩
      intro holding member
      rcases List.mem_append.mp member with old | new
      · exact held holding old
      · rw [List.mem_singleton] at new
        subst new
        exact going _ (List.mem_of_getElem? found)
  | lost jobs holdings index roleId error here found =>
      rw [here] at sourced
      obtain ⟨going, held⟩ := sourced
      exact ⟨_, rfl, fun job member => going job (List.mem_of_mem_eraseIdx member), held⟩
  | gathered holdings here =>
      rw [here] at sourced
      exact ⟨_, rfl, holdings, sourced.2, Pool.Sound.start _ holdings⟩
  | compiled pool next event here stepped =>
      rw [here] at sourced
      obtain ⟨holdings, held, sound⟩ := sourced
      exact ⟨_, rfl, holdings, held, sound.step stepped⟩
  | received pool compiled here outcome some_ =>
      rw [here] at sourced
      obtain ⟨holdings, held, sound⟩ := sourced
      obtain ⟨_, same, policy⟩ := sound.outcome_isPolicyOf outcome
      cases same
      exact ⟨_, rfl, isSourced_of_isPolicyOf held policy some_⟩
  | publishing compiled publish here =>
      rw [here] at sourced
      exact ⟨_, rfl, sourced⟩
  | published compiled publish here done =>
      rw [here] at sourced
      exact ⟨_, rfl, sourced⟩
  | built compiled engine here made equal =>
      have builtIn := onlyBuiltIn (by rw [isAt_eq running, here]; rfl)
      obtain ⟨text, rfl⟩ := exists_text_of_built builtIn made
      rw [here] at sourced
      exact ⟨_, rfl, isSourced_of_perm sourced (rules_perm_of_verifyRules equal)⟩
  | _ => exact ⟨_, rfl, trivial⟩

namespace IsSourced

theorem moved (sourced : service.IsSourced paths) (onlyBuiltIn : service.OnlyBuiltIn)
    (running : service.sync.pass = some pass) (moved : Moved service pass move after) :
    after.IsSourced paths := by
  have staged := sourced.stage pass running
  obtain ⟨next, rest, carried⟩ := isSourced_moved sourced.stored onlyBuiltIn running staged moved
  refine ⟨?_, ?_, ?_⟩
  · rw [moved.keeps.store]
    exact sourced.stored
  · intro generation current
    rcases moved.handle with same | ⟨compiled, engine, here, installed⟩
    · exact sourced.live generation (same ▸ current)
    · rw [installed] at current
      cases current
      rw [here] at staged
      exact staged
  · intro other ran
    cases (rest.symm.trans ran)
    exact carried

theorem happens (sourced : service.IsSourced paths)
    (step : Happens OnlyBuiltIn (KeepsPaths paths) service after) : after.IsSourced paths := by
  rcases step.told with handover | ⟨pass, move, running, onlyBuiltIn, moved⟩ |
    ⟨handle, stored, passes⟩
  · refine ⟨?_, ?_, handover.stage trivial sourced.stage⟩
    · rw [handover.keeps.store]
      exact sourced.stored
    · rw [handover.handle]
      exact sourced.live
  · exact sourced.moved onlyBuiltIn running moved
  · refine ⟨stored, fun generation current => sourced.live generation (handle ▸ current), ?_⟩
    intro next ran
    rcases passes with same | ⟨pass, _, _, gone⟩
    · exact sourced.stage next (same ▸ ran)
    · rw [gone] at ran
      cases ran

theorem runs (sourced : service.IsSourced paths)
    (run : Runs OnlyBuiltIn (KeepsPaths paths) service after) : after.IsSourced paths := by
  induction run with
  | refl => exact sourced
  | tail _ step ih => exact ih.happens step

end IsSourced

theorem exists_decision_of_unweighed {service : Service} {request : Request}
    (unweighed : ¬ (service.authorizer.enabled = true ∧
      service.authorizer.rules.bypasses request.path = false ∧
      ∃ generation, service.handle.current = some generation)) :
    ∃ decision, (service.authorize request).2 = .decided decision := by
  rw [authorize_snd]
  unfold Authorizer.decide
  split
  next => exact ⟨_, rfl⟩
  next checked =>
    rw [Bool.or_eq_true, not_or, Bool.not_eq_true', Bool.not_eq_false, Bool.not_eq_true] at checked
    cases current : service.handle.current with
    | none => exact ⟨_, rfl⟩
    | some generation => exact absurd ⟨checked.1, checked.2, generation, current⟩ unweighed

/-- A request is weighed by the live lines, all of them of paths from among these, and comes to
one with such an object. -/
def ComesTo (such paths : String → Prop) (service : Service) (request : Request) : Prop :=
  service.authorizer.enabled = true ∧ service.authorizer.rules.bypasses request.path = false ∧
    ∃ generation lines, service.handle.current = some generation ∧
      generation.engine.rules = lines.map Line.rule ∧
      (∀ line ∈ lines, line.isStorable = true ∧ paths line.object) ∧
      RoleGrants.ComesTo such lines request

theorem ComesTo.mono {such other : String → Prop} {service : Service} {request : Request}
    (wider : ∀ object, such object → other object) (comes : service.ComesTo such paths request) :
    service.ComesTo other paths request := by
  obtain ⟨enabled, checked, generation, lines, current, rules, each, comes⟩ := comes
  exact ⟨enabled, checked, generation, lines, current, rules, each, comes.mono wider⟩

theorem IsSourced.aborted_iff {service : Service} (sourced : service.IsSourced paths)
    (request : Request) :
    (∀ error, (service.authorize request).2 ≠ .failed error) ∧
      ((service.authorize request).2 = .aborted ↔ service.ComesTo Faulty paths request) := by
  by_cases weighed : service.authorizer.enabled = true ∧
      service.authorizer.rules.bypasses request.path = false ∧
      ∃ generation, service.handle.current = some generation
  · obtain ⟨enabled, checked, generation, current⟩ := weighed
    obtain ⟨lines, holds, each⟩ := sourced.live generation current
    obtain ⟨unfailed, aborts⟩ :=
      weighSubjects_aborted_iff holds request.path request.method request.subjects
    rw [authorize_of_checked enabled checked, current]
    refine ⟨unfailed, ?_⟩
    rw [aborts]
    constructor
    · exact fun comes =>
        ⟨enabled, checked, generation, lines, current, holds.rules, each, comes⟩
    · -- The rules are of no other lines.
      rintro ⟨_, _, other, others, same, rules, _, comes⟩
      cases current.symm.trans same
      rw [holds.rules] at rules
      rw [List.map_injective_iff.mpr (fun _ _ => Line.rule_injective) rules]
      exact comes
  · obtain ⟨decision, decided⟩ := exists_decision_of_unweighed weighed
    rw [decided]
    refine ⟨nofun, iff_of_false nofun ?_⟩
    rintro ⟨enabled, checked, generation, _, current, _⟩
    exact weighed ⟨enabled, checked, generation, current⟩

end Service

open Service

end RoleGrants
