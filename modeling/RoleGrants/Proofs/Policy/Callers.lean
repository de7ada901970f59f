import RoleGrants.Policy.Authorize

/-! # The order of a caller's roles

Each role of a caller is weighed on its own: it settles the request, or it leaves it to the
next one (`Verdict.ruling?`).  The first that settles it rules on it (`weighSubjects_eq`),
so a request is denied exactly if every role is refused, and roles of which none fails pass
together whenever one of them is allowed.  A role that fails stands against a role that is
allowed, and there the one in front rules
(`order_of_roles_matters_exactly_where_verdicts_clash`). -/

set_option autoImplicit false

namespace RoleGrants

/-- What a subject with this verdict makes of a request; a refused one makes nothing of it. -/
def Verdict.ruling? : Verdict → Option Ruling
  | .allowed => some (.decided .allow)
  | .refused => none
  | .failed error => some (.failed error)
  | .aborted => some .aborted

namespace Verdict

theorem ruling?_eq_none_iff (verdict : Verdict) : verdict.ruling? = none ↔ verdict = .refused := by
  cases verdict <;> simp [ruling?]

theorem ruling?_eq_allow_iff (verdict : Verdict) :
    verdict.ruling? = some (.decided .allow) ↔ verdict = .allowed := by
  cases verdict <;> simp [ruling?]

theorem ruling?_ne_skipped (verdict : Verdict) : verdict.ruling? ≠ some (.decided .skipped) := by
  cases verdict <;> simp [ruling?]

theorem ruling?_ne_deny (verdict : Verdict) (reason : DenyReason) :
    verdict.ruling? ≠ some (.decided (.deny reason)) := by
  cases verdict <;> simp [ruling?]

theorem ruling?_injective : Function.Injective ruling? := by
  intro first second same
  cases first <;> cases second <;> simp_all [ruling?]

end Verdict

namespace Authorizer

variable (engine : Engine) (path method : String)

theorem weighSubjects_eq (subjects : List String) :
    weighSubjects engine path method subjects =
      (subjects.findSome? fun subject => (engine.weigh subject path method).ruling?).getD
        (.decided (.deny .noMatchingRole)) := by
  induction subjects with
  | nil => rfl
  | cons subject rest ih =>
      rw [weighSubjects, List.findSome?_cons]
      cases engine.weigh subject path method with
      | refused => simpa [Verdict.ruling?] using ih
      | allowed => rfl
      | failed error => rfl
      | aborted => rfl

theorem weighSubjects_cases (subjects : List String) :
    ((∀ subject ∈ subjects, engine.weigh subject path method = .refused) ∧
        weighSubjects engine path method subjects = .decided (.deny .noMatchingRole)) ∨
      ∃ subject ∈ subjects, engine.weigh subject path method ≠ .refused ∧
        some (weighSubjects engine path method subjects) =
          (engine.weigh subject path method).ruling? := by
  rw [weighSubjects_eq]
  cases found : subjects.findSome? fun subject =>
      (engine.weigh subject path method).ruling? with
  | none =>
      rw [List.findSome?_eq_none_iff] at found
      refine .inl ⟨?_, rfl⟩
      intro subject member
      exact (Verdict.ruling?_eq_none_iff _).mp (found subject member)
  | some ruling =>
      obtain ⟨subject, member, own⟩ := List.exists_of_findSome?_eq_some found
      refine .inr ⟨subject, member, ?_, own.symm⟩
      intro refused
      rw [refused] at own
      cases own

theorem weighSubjects_eq_deny_iff (subjects : List String) :
    weighSubjects engine path method subjects = .decided (.deny .noMatchingRole) ↔
      ∀ subject ∈ subjects, engine.weigh subject path method = .refused := by
  rcases weighSubjects_cases engine path method subjects with
    ⟨all, denied⟩ | ⟨subject, member, settles, own⟩
  · exact ⟨fun _ => all, fun _ => denied⟩
  · constructor
    · intro denied
      rw [denied] at own
      exact absurd own.symm (Verdict.ruling?_ne_deny _ _)
    · exact fun all => absurd (all subject member) settles

theorem weighSubjects_ne_skipped (subjects : List String) :
    weighSubjects engine path method subjects ≠ .decided .skipped := by
  intro skipped
  rcases weighSubjects_cases engine path method subjects with
    ⟨_, denied⟩ | ⟨subject, _, _, own⟩
  · rw [denied] at skipped
    cases skipped
  · rw [skipped] at own
    exact Verdict.ruling?_ne_skipped _ own.symm

theorem weighSubjects_eq_allow_iff (subjects : List String) :
    weighSubjects engine path method subjects = .decided .allow ↔
      ∃ before subject after, subjects = before ++ subject :: after ∧
        engine.weigh subject path method = .allowed ∧
        ∀ other ∈ before, engine.weigh other path method = .refused := by
  have first : weighSubjects engine path method subjects = .decided .allow ↔
      (subjects.findSome? fun subject => (engine.weigh subject path method).ruling?) =
        some (.decided .allow) := by
    rw [weighSubjects_eq, Option.getD_eq_iff]
    simp
  rw [first, List.findSome?_eq_some_iff]
  simp only [Verdict.ruling?_eq_allow_iff, Verdict.ruling?_eq_none_iff]

theorem weighSubjects_cons_of_ne {subject : String}
    (settles : engine.weigh subject path method ≠ .refused) (rest : List String) :
    some (weighSubjects engine path method (subject :: rest)) =
      (engine.weigh subject path method).ruling? := by
  rw [weighSubjects]
  cases weighed : engine.weigh subject path method with
  | refused => exact absurd weighed settles
  | allowed => rfl
  | failed error => rfl
  | aborted => rfl

variable {engine path method}

/-- Where all that settle the request do so alike, only the members of the list count. -/
theorem weighSubjects_eq_of_same_members {subjects others : List String}
    (same : ∀ subject, subject ∈ others ↔ subject ∈ subjects)
    (alike : ∀ first ∈ subjects, ∀ second ∈ subjects,
      engine.weigh first path method ≠ .refused → engine.weigh second path method ≠ .refused →
        engine.weigh first path method = engine.weigh second path method) :
    weighSubjects engine path method others = weighSubjects engine path method subjects := by
  rcases weighSubjects_cases engine path method subjects with
    ⟨all, denied⟩ | ⟨first, member, settles, own⟩
  · rw [denied, weighSubjects_eq_deny_iff]
    exact fun subject member => all subject ((same subject).mp member)
  · rcases weighSubjects_cases engine path method others with
      ⟨all, -⟩ | ⟨second, member', settles', own'⟩
    · exact absurd (all first ((same first).mpr member)) settles
    · have equal := alike first member second ((same second).mp member') settles settles'
      exact Option.some.inj (by rw [own', own, equal])

theorem exists_allowed_of_weighSubjects {subjects : List String}
    (passed : weighSubjects engine path method subjects = .decided .allow) :
    ∃ subject ∈ subjects, engine.weigh subject path method = .allowed := by
  rcases weighSubjects_cases engine path method subjects with
    ⟨_, denied⟩ | ⟨subject, member, _, own⟩
  · rw [denied] at passed
    cases passed
  · rw [passed] at own
    exact ⟨subject, member, (Verdict.ruling?_eq_allow_iff _).mp own.symm⟩

theorem weighSubjects_eq_allow_iff_of_answered {subjects : List String}
    (answered : ∀ subject ∈ subjects, engine.weigh subject path method = .allowed ∨
      engine.weigh subject path method = .refused) :
    weighSubjects engine path method subjects = .decided .allow ↔
      ∃ subject ∈ subjects, engine.weigh subject path method = .allowed := by
  constructor
  · exact exists_allowed_of_weighSubjects
  · rintro ⟨subject, member, allowed⟩
    rcases weighSubjects_cases engine path method subjects with
      ⟨all, -⟩ | ⟨other, present, settles, own⟩
    · rw [all subject member] at allowed
      cases allowed
    · have passes := (answered other present).resolve_right settles
      rw [passes] at own
      exact Option.some.inj own

/-- A list is ruled on as it is with any of its members that settle the request in front. -/
theorem verdict_eq_of_any_order {subjects : List String}
    (same : ∀ others : List String, (∀ subject, subject ∈ others ↔ subject ∈ subjects) →
      weighSubjects engine path method others = weighSubjects engine path method subjects)
    {first second : String} (member : first ∈ subjects) (member' : second ∈ subjects)
    (settles : engine.weigh first path method ≠ .refused)
    (settles' : engine.weigh second path method ≠ .refused) :
    engine.weigh first path method = engine.weigh second path method := by
  have inFront : ∀ subject ∈ subjects, engine.weigh subject path method ≠ .refused →
      some (weighSubjects engine path method subjects) =
        (engine.weigh subject path method).ruling? := by
    intro subject present ruling
    have again : ∀ other, other ∈ subject :: subjects ↔ other ∈ subjects := by
      intro other
      rw [List.mem_cons, or_iff_right_iff_imp]
      rintro rfl
      exact present
    rw [← same (subject :: subjects) again]
    exact weighSubjects_cons_of_ne engine path method ruling subjects
  apply Verdict.ruling?_injective
  rw [← inFront first member settles, ← inFront second member' settles']

variable {authorizer : Authorizer}

theorem decide_of_unchecked
    (unchecked : authorizer.enabled = false ∨ authorizer.rules.bypasses path = true)
    (current : Option Generation) (subjects : List String) :
    authorizer.decide current ⟨subjects, path, method⟩ = .decided .skipped := by
  unfold Authorizer.decide
  apply if_pos
  simpa using unchecked

theorem decide_of_checked
    (checked : ¬(authorizer.enabled = false ∨ authorizer.rules.bypasses path = true))
    (generation : Generation) (subjects : List String) :
    authorizer.decide (some generation) ⟨subjects, path, method⟩ =
      weighSubjects generation.engine path method subjects := by
  unfold Authorizer.decide
  apply if_neg
  simpa using checked

end Authorizer

/-- Where nothing is checked every list of roles is passed over.  Else a request is denied
exactly if all of its roles are refused, and passes exactly if a role is allowed and all in front
of it are refused; so while none of the roles fails it passes exactly if any of them is allowed.
Lists with the same roles are all ruled on alike exactly if no two of these roles that are not
refused have different verdicts. -/
theorem order_of_roles_matters_exactly_where_verdicts_clash (authorizer : Authorizer)
    (generation : Generation) (path method : String) :
    let verdict := fun subject => generation.engine.weigh subject path method
    let ruling := fun subjects => authorizer.decide (some generation) ⟨subjects, path, method⟩
    if authorizer.enabled = false ∨ authorizer.rules.bypasses path = true then
      ∀ subjects, ruling subjects = .decided .skipped
    else
      ∀ subjects : List String,
        (ruling subjects = .decided (.deny .noMatchingRole) ↔
          ∀ subject ∈ subjects, verdict subject = .refused) ∧
        (ruling subjects = .decided .allow ↔
          ∃ before subject after, subjects = before ++ subject :: after ∧
            verdict subject = .allowed ∧ ∀ other ∈ before, verdict other = .refused) ∧
        ((∀ subject ∈ subjects, verdict subject = .allowed ∨ verdict subject = .refused) →
          (ruling subjects = .decided .allow ↔
            ∃ subject ∈ subjects, verdict subject = .allowed)) ∧
        ((∀ others : List String, (∀ subject, subject ∈ others ↔ subject ∈ subjects) →
            ruling others = ruling subjects) ↔
          ∀ first ∈ subjects, ∀ second ∈ subjects,
            verdict first ≠ .refused → verdict second ≠ .refused →
              verdict first = verdict second) := by
  intro verdict ruling
  split
  next unchecked => exact Authorizer.decide_of_unchecked unchecked (some generation)
  next checked =>
    have weighs : ∀ subjects,
        ruling subjects = Authorizer.weighSubjects generation.engine path method subjects :=
      Authorizer.decide_of_checked checked generation
    intro subjects
    simp only [weighs]
    refine ⟨Authorizer.weighSubjects_eq_deny_iff _ path method subjects,
      Authorizer.weighSubjects_eq_allow_iff _ path method subjects,
      Authorizer.weighSubjects_eq_allow_iff_of_answered, ?_, ?_⟩
    · intro same first member second member'
      exact Authorizer.verdict_eq_of_any_order same member member'
    · intro alike others same
      exact Authorizer.weighSubjects_eq_of_same_members same alike

def Generation.ofGrants (grants : List (List String)) (failing : List String) : Generation where
  id := 1
  signal := none
  lines := grants.length
  builtAt := 0
  engine := Engine.ofGrants grants failing

/-- Of three roles one is allowed and none fails: the request passes whichever is in front, and
one that is listed twice makes no difference. -/
theorem export_passes_in_either_order :
    let generation := Generation.ofGrants [["exporter", "/export", "GET"]] ["intern"]
    let ruling := fun subjects =>
      ({} : Authorizer).decide (some generation) ⟨subjects, "/export", "GET"⟩
    ruling ["viewer", "exporter", "editor"] = .decided .allow ∧
      ruling ["editor", "viewer", "editor", "exporter"] = .decided .allow := by
  intro generation ruling
  have all := order_of_roles_matters_exactly_where_verdicts_clash {} generation "/export" "GET"
  rw [if_neg (by decide)] at all
  obtain ⟨_, _, passes, alike⟩ := all ["viewer", "exporter", "editor"]
  have passed : ruling ["viewer", "exporter", "editor"] = .decided .allow :=
    (passes (by decide)).mpr ⟨"exporter", by simp, by decide⟩
  refine ⟨passed, ?_⟩
  have turned : ruling ["editor", "viewer", "editor", "exporter"] =
      ruling ["viewer", "exporter", "editor"] := by
    apply alike.mpr
    · decide
    · intro subject
      simp only [List.mem_cons, List.not_mem_nil, or_false]
      grind
  exact turned.trans passed

/-- A role whose weighing fails hides the one behind it that is allowed. -/
theorem failing_role_in_front_hides_an_allowed_one :
    let generation := Generation.ofGrants [["exporter", "/export", "GET"]] ["intern"]
    let ruling := fun subjects =>
      ({} : Authorizer).decide (some generation) ⟨subjects, "/export", "GET"⟩
    generation.engine.weigh "exporter" "/export" "GET" = .allowed ∧
      ruling ["exporter", "intern"] = .decided .allow ∧
      ruling ["intern", "exporter"] = .failed (.invalidModel "broken for intern") := by
  decide

end RoleGrants
