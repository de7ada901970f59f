import RoleGrants.Policy.Authorize
import RoleGrants.Proofs.Engine.BuiltIn
import RoleGrants.Proofs.Pool.Accounting
import RoleGrants.Proofs.Store.Grants

/-! # Decisions by what a store grants

An engine enforces a store when the lines that it decides by are those that the store
grants and a policy file can carry.  What an authorizer then rules on a request is
told by the store alone (`weighSubjects_rules`), whatever the order of the subjects and
of the lines, unless a path that is granted makes no pattern of a modest size. -/

set_option autoImplicit false

namespace RoleGrants

namespace Store

/-- What a line says is granted, and a file can carry the line. -/
def Carries (store : Store) (line : Line) : Prop :=
  line.isStorable = true ∧ ∃ resource, store.Grants line.subject resource ∧
    Line.ofResource line.subject resource = line

end Store

/-- The engine decides by the lines that the store grants and a file can carry. -/
def Engine.Enforces (engine : Engine) (store : Store) : Prop :=
  ∃ lines, (∀ line, line ∈ lines ↔ store.Carries line) ∧
    ∀ subject path method,
      (engine.weigh subject path method).Tells lines subject path method

theorem exists_lines_of_rules (lines : List Line) (rules : List (List String))
    (own : ∀ rule ∈ rules, rule ∈ lines.map Line.rule) :
    ∃ others : List Line, rules = others.map Line.rule ∧ ∀ line ∈ others, line ∈ lines := by
  induction rules with
  | nil => exact ⟨[], rfl, fun line member => absurd member List.not_mem_nil⟩
  | cons rule rest ih =>
      obtain ⟨line, member, same⟩ := List.mem_map.mp (own rule List.mem_cons_self)
      obtain ⟨others, rules, within⟩ :=
        ih fun other later => own other (List.mem_cons_of_mem _ later)
      refine ⟨line :: others, ?_, ?_⟩
      · rw [List.map_cons, same, rules]
      · intro other present
        rcases List.mem_cons.mp present with rfl | later
        · exact member
        · exact within other later

theorem exists_lines_of_perm {lines : List Line} {rules : List (List String)}
    (same : (lines.map Line.rule).Perm rules) :
    ∃ others : List Line, rules = others.map Line.rule ∧ ∀ line, line ∈ others ↔ line ∈ lines := by
  obtain ⟨others, own, within⟩ := exists_lines_of_rules lines rules
    fun rule member => same.mem_iff.mpr member
  refine ⟨others, own, fun line => ⟨within line, ?_⟩⟩
  intro member
  have ruled := same.mem_iff.mp (List.mem_map_of_mem member)
  rw [own] at ruled
  obtain ⟨other, present, equal⟩ := List.mem_map.mp ruled
  rw [← Line.rule_injective equal]
  exact present

theorem exists_lines_told {lines : List Line} {text : String} (nonempty : lines ≠ [])
    (same : (lines.map Line.rule).Perm (roleModel.engine text).rules) :
    ∃ others : List Line, (∀ line, line ∈ others ↔ line ∈ lines) ∧ ∀ subject path method,
      ((roleModel.engine text).weigh subject path method).Tells others subject path method := by
  obtain ⟨others, rules, members⟩ := exists_lines_of_perm same
  have some_ : others ≠ [] := by
    obtain ⟨first, rest, cons⟩ := List.exists_cons_of_ne_nil nonempty
    have present := (members first).mpr (by simp [cons])
    exact List.ne_nil_of_mem present
  refine ⟨others, members, ?_⟩
  intro subject path method
  exact Model.weigh_tells some_ rules subject path method

end RoleGrants
