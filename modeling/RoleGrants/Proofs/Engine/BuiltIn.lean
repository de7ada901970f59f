import RoleGrants.Engine.Build
import RoleGrants.Line
import RoleGrants.Proofs.Files.Paths

/-! # The built-in model

The text of the built-in model is read as `roleModel`.  An engine of that model
allows what one of its lines covers and refuses what none covers; it never fails,
and it is aborted only by a line for the subject whose object makes no pattern
(`weigh_tells`). -/

set_option autoImplicit false

namespace RoleGrants

def roleModel : Model where
  request := some ["sub", "obj", "act"]
  policy := some ["sub", "obj", "act"]
  matcher := some "r.sub == p.sub && keyMatch2(r.obj, p.obj) && r.act == p.act"
  effect := some "some(where (p.eft == allow))"
  roles := []

theorem ofText_builtInModel : Model.ofText builtInModel = .ok roleModel := by
  have read : (Model.ofText builtInModel).toOption = some roleModel := by decide +kernel
  exact ok_of_toOption read

theorem ofFiles_eq_ok_iff {files : Files} {modelPath : PathName} {text : String} {model : Model}
    (policyPath : PathName) (engine : Engine) (found : files.readText modelPath = .ok text)
    (read : Model.ofText text = .ok model) (unkinded : model.roles = []) :
    Engine.ofFiles files modelPath policyPath = .ok engine ↔
      ∃ rules, files.readText policyPath = .ok rules ∧ engine = model.engine rules := by
  rw [Engine.ofFiles, found]
  simp only [read]
  cases files.readText policyPath with
  | error cause => simp [unkinded, Model.roleKindsFault?]
  | ok rules => simp [unkinded, Model.roleKindsFault?, Model.roleRulesFault?, eq_comm]

theorem ofFiles_builtIn {files : Files} {modelPath : PathName} (policyPath : PathName)
    (engine : Engine) (model : files.readText modelPath = .ok builtInModel) :
    Engine.ofFiles files modelPath policyPath = .ok engine ↔
      ∃ text, files.readText policyPath = .ok text ∧ engine = roleModel.engine text :=
  ofFiles_eq_ok_iff policyPath engine model ofText_builtInModel rfl

namespace RoutePattern

variable {object : String}

/-- The object is the written form of a pattern that is found in the path. -/
def Matches (object path : String) : Prop :=
  ∃ pattern, reading? object = some pattern ∧ pattern.isFound path = true

/-- The object is the written form of a pattern that surely can be compiled. -/
def IsModest (object : String) : Prop :=
  ∃ pattern, reading? object = some pattern ∧ pattern.IsModest

theorem pattern?_eq (object : String) : pattern? object = (reading? object).filter Pattern.fits :=
  rfl

instance (object : String) : Decidable (IsModest object) :=
  decidable_of_iff (∃ pattern ∈ reading? object, pattern.IsModest) Iff.rfl

theorem IsModest.pattern?_ne_none (modest : IsModest object) : pattern? object ≠ none := by
  obtain ⟨pattern, read, small⟩ := modest
  rw [pattern?_eq, read, Option.filter_some_pos small.fits]
  exact Option.some_ne_none pattern

theorem matches_iff_of_admits? {path : String} {found : Bool}
    (admitted : admits? object path = some found) : Matches object path ↔ found = true := by
  obtain ⟨pattern, made, rfl⟩ := Option.map_eq_some_iff.mp admitted
  have read : reading? object = some pattern := (Option.filter_eq_some_iff.mp made).1
  constructor
  · rintro ⟨other, same, isFound⟩
    rw [read] at same
    cases same
    exact isFound
  · exact fun isFound => ⟨pattern, read, isFound⟩

end RoutePattern

namespace Line

def Covers (line : Line) (subject path method : String) : Prop :=
  line.subject = subject ∧ RoutePattern.Matches line.object path ∧ line.action = method

end Line

/-- What a verdict of the built-in model tells about the lines that it was reached over. -/
def Verdict.Tells (lines : List Line) (subject path method : String) : Verdict → Prop
  | .allowed => ∃ line ∈ lines, line.Covers subject path method
  | .refused => ∀ line ∈ lines, ¬ line.Covers subject path method
  | .aborted => ∃ line ∈ lines, line.subject = subject ∧ RoutePattern.pattern? line.object = none
  | .failed _ => False

theorem Verdict.Tells.cons {line : Line} {lines : List Line} {subject path method : String}
    {verdict : Verdict} (apart : ¬ line.Covers subject path method)
    (tells : verdict.Tells lines subject path method) :
    verdict.Tells (line :: lines) subject path method := by
  cases verdict with
  | allowed =>
      obtain ⟨other, member, covers⟩ := tells
      exact ⟨other, List.mem_cons_of_mem _ member, covers⟩
  | refused =>
      intro other member
      rcases List.mem_cons.mp member with rfl | later
      · exact apart
      · exact tells other later
  | aborted =>
      obtain ⟨other, member, faulty⟩ := tells
      exact ⟨other, List.mem_cons_of_mem _ member, faulty⟩
  | failed error => exact tells

namespace Model

theorem compare_roleModel (subject path method : String) (line : Line) :
    compare ["sub", "obj", "act"] [subject, path, method] ["sub", "obj", "act"] line.rule =
      if subject = line.subject then
        match RoutePattern.admits? line.object path with
        | none => .aborted
        | some true => if method = line.action then .yes else .no
        | some false => .no
      else .no := by
  have fields : ∀ first second third : String,
      fieldValue ["sub", "obj", "act"] [first, second, third] "sub" = some first ∧
      fieldValue ["sub", "obj", "act"] [first, second, third] "obj" = some second ∧
      fieldValue ["sub", "obj", "act"] [first, second, third] "act" = some third :=
    fun _ _ _ => ⟨rfl, rfl, rfl⟩
  obtain ⟨subjectAsked, objectAsked, actionAsked⟩ := fields subject path method
  obtain ⟨subjectRuled, objectRuled, actionRuled⟩ := fields line.subject line.object line.action
  simp only [compare, Line.rule, equal, onRoute, subjectAsked, objectAsked, actionAsked,
    subjectRuled, objectRuled, actionRuled]
  by_cases same : subject = line.subject
  · simp only [if_pos same, Match.andThen]
    cases RoutePattern.admits? line.object path with
    | none => rfl
    | some admitted => cases admitted <;> rfl
  · simp only [if_neg same, Match.andThen]

/-- A line aborts the weighing, or allows the request, or leaves it to the lines behind. -/
theorem weighRules_cons_cases (matcher subject path method : String) (line : Line)
    (rest : List (List String)) :
    (line.subject = subject ∧ RoutePattern.pattern? line.object = none ∧
        weighRules matcher ["sub", "obj", "act"] [subject, path, method] ["sub", "obj", "act"]
          (line.rule :: rest) = .aborted) ∨
      (RoutePattern.pattern? line.object ≠ none ∧ line.Covers subject path method ∧
        weighRules matcher ["sub", "obj", "act"] [subject, path, method] ["sub", "obj", "act"]
          (line.rule :: rest) = .allowed) ∨
      (line.subject = subject → RoutePattern.pattern? line.object ≠ none) ∧
        ¬ line.Covers subject path method ∧
        weighRules matcher ["sub", "obj", "act"] [subject, path, method] ["sub", "obj", "act"]
          (line.rule :: rest) =
            weighRules matcher ["sub", "obj", "act"] [subject, path, method] ["sub", "obj", "act"]
              rest := by
  have sized : ¬ ["sub", "obj", "act"].length ≠ line.rule.length := by simp [Line.rule]
  have granting : grants ["sub", "obj", "act"] line.rule = true := rfl
  rw [weighRules, if_neg sized, compare_roleModel]
  by_cases same : subject = line.subject
  · rw [if_pos same]
    cases admitted : RoutePattern.admits? line.object path with
    | none =>
        rw [RoutePattern.admits?, Option.map_eq_none_iff] at admitted
        exact .inl ⟨same.symm, admitted, rfl⟩
    | some found =>
        have sane : RoutePattern.pattern? line.object ≠ none := by
          intro faulty
          rw [RoutePattern.admits?, faulty] at admitted
          cases admitted
        have matched := RoutePattern.matches_iff_of_admits? admitted
        cases found with
        | true =>
            by_cases called : method = line.action
            · simp only [if_pos called, granting, if_true]
              exact .inr (.inl ⟨sane, ⟨same.symm, matched.mpr rfl, called.symm⟩, trivial⟩)
            · simp only [if_neg called]
              exact .inr (.inr ⟨fun _ => sane, fun covers => called covers.2.2.symm, trivial⟩)
        | false =>
            refine .inr (.inr ⟨fun _ => sane, ?_, rfl⟩)
            rintro ⟨_, covered, _⟩
            cases matched.mp covered
  · rw [if_neg same]
    exact .inr (.inr ⟨fun own => absurd own.symm same, fun covers => same covers.1.symm, rfl⟩)

theorem weighRules_tells (matcher subject path method : String) (lines : List Line) :
    (weighRules matcher ["sub", "obj", "act"] [subject, path, method] ["sub", "obj", "act"]
      (lines.map Line.rule)).Tells lines subject path method := by
  induction lines with
  | nil =>
      intro line member
      cases member
  | cons line rest ih =>
      rw [List.map_cons]
      rcases weighRules_cons_cases matcher subject path method line (rest.map Line.rule) with
        ⟨own, faulty, aborted⟩ | ⟨_, covers, allowed⟩ | ⟨_, apart, onward⟩
      · rw [aborted]
        exact ⟨line, List.mem_cons_self, own, faulty⟩
      · rw [allowed]
        exact ⟨line, List.mem_cons_self, covers⟩
      · rw [onward]
        exact ih.cons apart

theorem weigh_tells {rules : List (List String)} {lines : List Line} (nonempty : lines ≠ [])
    (own : rules = lines.map Line.rule) (subject path method : String) :
    (roleModel.weigh rules subject path method).Tells lines subject path method := by
  subst own
  obtain ⟨first, rest, rfl⟩ := List.exists_cons_of_ne_nil nonempty
  exact weighRules_tells _ subject path method (first :: rest)

end Model
end RoleGrants
