import RoleGrants.Proofs.Pool.Schedules
import RoleGrants.Proofs.Sync.Building

/-! # The check of an engine

A pool hands its lines over in ascending order, and the check sorts what an engine has
loaded.  The two orders are one, that of the fields from the first to the last, so it
makes no difference in which order the rules were loaded; and a rule that is missing,
was put in, comes twice, or has lost or turned round a field does not get through
(`check_accepts_exactly_the_compiled_rules`). -/

set_option autoImplicit false

namespace RoleGrants

theorem verifyRules_cases (compiled : Compiled) (engine : Engine) :
    verifyRules compiled engine = .ok () ∨
      verifyRules compiled engine =
        .error (.mismatch compiled.lines.length engine.rules.length) := by
  rw [verifyRules]
  split
  · exact .inl rfl
  · rw [sortBy, List.length_mergeSort]
    exact .inr rfl

/-- An arrangement of the lines has each of them once, and nothing else. -/
theorem IsPolicyOf.rules_perm_iff {holdings : List Holding} {compiled : Compiled}
    (policy : IsPolicyOf holdings compiled) (rules : List (List String)) :
    rules.Perm (compiled.lines.map Line.rule) ↔
      rules.Nodup ∧ ∀ rule, rule ∈ rules ↔ ∃ line ∈ compiled.lines, line.rule = rule := by
  have once : (compiled.lines.map Line.rule).Nodup := by
    refine List.Pairwise.map Line.rule ?_ policy.ascends
    intro left right above same
    exact Line.strictOrder.irreflexive right (Line.rule_injective same ▸ above)
  constructor
  · intro same
    refine ⟨same.nodup_iff.mpr once, fun rule => ?_⟩
    rw [same.mem_iff, List.mem_map]
  · rintro ⟨distinct, members⟩
    refine (List.perm_ext_iff_of_nodup distinct once).mpr fun rule => ?_
    rw [members, List.mem_map]

/-- A pool, under whatever schedule, hands its lines over by subject, then object, then action.
Against them an engine is accepted exactly if its rules are an arrangement of the lines: each of
them once, with its three fields in their order, and nothing else.  Any other engine is refused
with the two counts. -/
theorem check_accepts_exactly_the_compiled_rules (workers depth : Nat) (arrival : List Holding)
    (compiled : Compiled)
    (yields : Pool.Yields (PoolSize.raised workers depth) arrival compiled) (engine : Engine) :
    compiled.lines.Pairwise (fun left right => left.subject < right.subject ∨
        left.subject = right.subject ∧ (left.object < right.object ∨
          left.object = right.object ∧ left.action < right.action)) ∧
      (verifyRules compiled engine = .ok () ↔
        engine.rules.Perm
          (compiled.lines.map fun line => [line.subject, line.object, line.action])) ∧
      (verifyRules compiled engine = .ok () ↔
        engine.rules.Nodup ∧ ∀ rule, rule ∈ engine.rules ↔
          ∃ line ∈ compiled.lines, [line.subject, line.object, line.action] = rule) ∧
      (verifyRules compiled engine ≠ .ok () →
        verifyRules compiled engine =
          .error (.mismatch compiled.lines.length engine.rules.length)) := by
  have policy := yields.isPolicyOf
  refine ⟨?_, policy.verifyRules_iff engine, ?_, ?_⟩
  · exact policy.ascends.imp fun above => (Line.lt_iff _ _).mp above
  · exact (policy.verifyRules_iff engine).trans (policy.rules_perm_iff engine.rules)
  · exact (verifyRules_cases compiled engine).resolve_left

def twoHoldings : List Holding :=
  [⟨"viewer", [⟨"1", "m", "GET", "/a"⟩]⟩, ⟨"editor", [⟨"2", "m", "GET", "/a"⟩]⟩]

/-- The lines of two roles are accepted the other way round, and refused with a field cut in two
or a rule loaded twice. -/
theorem turned_rules_are_accepted_and_split_ones_refused :
    Pool.Yields (PoolSize.raised 1 1) twoHoldings (policyOf twoHoldings) ∧
      verifyRules (policyOf twoHoldings)
        (.ofGrants [["viewer", "/a", "GET"], ["editor", "/a", "GET"]] []) = .ok () ∧
      verifyRules (policyOf twoHoldings)
        (.ofGrants [["viewer", "/a", "GET"], ["editor", "/", "a", "GET"]] []) =
          .error (.mismatch 2 2) ∧
      verifyRules (policyOf twoHoldings)
        (.ofGrants [["editor", "/a", "GET"], ["viewer", "/a", "GET"], ["editor", "/a", "GET"]]
          []) = .error (.mismatch 2 3) := by
  have made : compile (PoolSize.raised 1 1) twoHoldings = .made (policyOf twoHoldings) := by
    decide +kernel
  have yields := Pool.yields_of_compile made
  have lines :
      (policyOf twoHoldings).lines = [⟨"editor", "/a", "GET"⟩, ⟨"viewer", "/a", "GET"⟩] := by
    decide +kernel
  have checked := fun engine => (check_accepts_exactly_the_compiled_rules 1 1 _ _ yields engine).2
  rw [lines] at checked
  refine ⟨yields, ?_, ?_, ?_⟩
  · exact (checked _).1.mpr (List.Perm.swap _ _ _)
  · refine (checked _).2.2 fun accepted => ?_
    have split := (checked _).1.mp accepted
    exact absurd (split.mem_iff (a := ["editor", "/", "a", "GET"])) (by decide)
  · refine (checked _).2.2 fun accepted => ?_
    exact absurd ((checked _).2.1.mp accepted).1 (by decide)

end RoleGrants
