import RoleGrants.Policy.Pool
import RoleGrants.Proofs.Ordering

/-! # What a pool holds

Nothing is lost and nothing is counted twice on the way from the feed through the
queue and the workers into the whole.  A `Meter` weighs what a worker and a holding
carry; if it agrees with each single move, the `tally` of the pool agrees with
every step (`tally_step`).  Roles, resources, lines left out, and each line are
meters.

`IsPolicyOf` says what compiling a list of holdings is to give, without a pool. -/

set_option autoImplicit false

namespace RoleGrants

/-- The lines of a holding, those among them that a policy file cannot carry too. -/
def Holding.lines (holding : Holding) : List Line :=
  holding.resources.map (Line.ofResource holding.roleId)

theorem Line.ofResource_eq_iff {roleId : String} {line : Line} {resource : Resource} :
    Line.ofResource roleId resource = line ↔
      roleId = line.subject ∧ resource.key = [line.action, line.object] := by
  cases line
  simp only [ofResource, Resource.key, Line.mk.injEq, List.cons.injEq, and_true]
  exact and_congr_right fun _ => and_comm

theorem Holding.mem_lines_iff (roleId : String) (resources : List Resource) (line : Line) :
    line ∈ (⟨roleId, resources⟩ : Holding).lines ↔
      roleId = line.subject ∧ [line.action, line.object] ∈ resources.map Resource.key := by
  simp only [lines, List.mem_map, Line.ofResource_eq_iff, and_left_comm, exists_and_left]

def Line.isStorable (line : Line) : Bool :=
  line.unstorable.isNone

theorem Line.isStorable_iff (line : Line) :
    line.isStorable = true ↔ RoleGrants.isStorable line.subject = true ∧
      RoleGrants.isStorable line.object = true ∧ RoleGrants.isStorable line.action = true := by
  rw [Line.isStorable, Line.unstorable]
  by_cases first : RoleGrants.isStorable line.subject = true
  · by_cases second : RoleGrants.isStorable line.object = true
    · by_cases third : RoleGrants.isStorable line.action = true
      · simp [first, second, third]
      · simp [first, second, third]
    · simp [first, second]
  · simp [first]

structure IsPolicyOf (holdings : List Holding) (compiled : Compiled) : Prop where
  ascends : compiled.lines.Pairwise fun left right => left < right
  mem_lines : ∀ line, line ∈ compiled.lines ↔
    line.isStorable = true ∧ ∃ holding ∈ holdings, line ∈ holding.lines
  roles : compiled.roles = holdings.length
  resources : compiled.resources = (holdings.flatMap Holding.resources).length
  rejected : compiled.rejected =
    (holdings.flatMap Holding.lines).countP fun line => !line.isStorable

namespace IsPolicyOf

theorem lines_eq {holdings others : List Holding} {first second : Compiled}
    (left : IsPolicyOf holdings first) (right : IsPolicyOf others second)
    (same : ∀ line, (∃ holding ∈ holdings, line ∈ holding.lines) ↔
      ∃ holding ∈ others, line ∈ holding.lines) : first.lines = second.lines := by
  refine Line.strictOrder.eq_of_ascending left.ascends right.ascends ?_
  intro line
  rw [left.mem_lines, right.mem_lines, same]

theorem unique {holdings : List Holding} {first second : Compiled}
    (left : IsPolicyOf holdings first) (right : IsPolicyOf holdings second) : first = second := by
  have lines := left.lines_eq right fun _ => Iff.rfl
  have roles := left.roles.trans right.roles.symm
  have resources := left.resources.trans right.resources.symm
  have rejected := left.rejected.trans right.rejected.symm
  cases first
  cases second
  simp only [Compiled.mk.injEq]
  exact ⟨lines, roles, resources, rejected⟩

/-- The order in which holdings arrive makes no difference. -/
theorem perm {holdings others : List Holding} {compiled : Compiled}
    (same : others.Perm holdings) (policy : IsPolicyOf holdings compiled) :
    IsPolicyOf others compiled where
  ascends := policy.ascends
  mem_lines line := by
    rw [policy.mem_lines]
    simp only [same.mem_iff]
  roles := policy.roles.trans same.length_eq.symm
  resources := policy.resources.trans (same.flatMap_right Holding.resources).length_eq.symm
  rejected := policy.rejected.trans ((same.flatMap_right Holding.lines).countP_eq _).symm

end IsPolicyOf

def policyOf (holdings : List Holding) : Compiled where
  lines := ascending ((holdings.flatMap Holding.lines).filter Line.isStorable)
  roles := holdings.length
  resources := (holdings.flatMap Holding.resources).length
  rejected := (holdings.flatMap Holding.lines).countP fun line => !line.isStorable

theorem isPolicyOf_policyOf (holdings : List Holding) :
    IsPolicyOf holdings (policyOf holdings) where
  ascends := Line.strictOrder.pairwise_ascending _
  mem_lines line := by
    rw [policyOf, Line.strictOrder.mem_ascending, List.mem_filter, List.mem_flatMap]
    exact and_comm
  roles := rfl
  resources := rfl
  rejected := rfl

namespace Pool

/-! ## Sums over lists -/

theorem total_append {α : Type} (weight : α → Nat) (first second : List α) :
    total weight (first ++ second) = total weight first + total weight second := by
  induction first with
  | nil => simp [total]
  | cons item rest ih =>
      simp only [List.cons_append, total, ih]
      omega

theorem total_set {α : Type} (weight : α → Nat) {items : List α} {index : Nat} {old : α}
    (found : items[index]? = some old) (new : α) :
    total weight (items.set index new) + weight old = total weight items + weight new := by
  induction items generalizing index with
  | nil => simp at found
  | cons item rest ih =>
      cases index with
      | zero =>
          simp only [List.getElem?_cons_zero, Option.some.injEq] at found
          subst found
          simp only [List.set_cons_zero, total]
          omega
      | succ index =>
          have tail := ih (by simpa using found)
          simp only [List.set_cons_succ, total]
          omega

theorem total_perm {α : Type} (weight : α → Nat) {items others : List α}
    (same : items.Perm others) : total weight items = total weight others := by
  induction same with
  | nil => rfl
  | cons item _ ih => simp only [total, ih]
  | swap item other rest =>
      simp only [total]
      omega
  | trans _ _ first second => exact first.trans second

theorem total_replicate {α : Type} (weight : α → Nat) (count : Nat) (item : α)
    (light : weight item = 0) : total weight (List.replicate count item) = 0 := by
  induction count with
  | zero => rfl
  | succ count ih => simp [List.replicate_succ, total, light, ih]

theorem total_eq_zero {α : Type} (weight : α → Nat) {items : List α}
    (light : ∀ item ∈ items, weight item = 0) : total weight items = 0 := by
  induction items with
  | nil => rfl
  | cons item rest ih =>
      have tail := ih fun other member => light other (List.mem_cons_of_mem _ member)
      simp [total, tail, light item List.mem_cons_self]

theorem total_flatMap {α β : Type} (parts : α → List β) (count : List β → Nat)
    (empty : count [] = 0) (append : ∀ first second, count (first ++ second) =
      count first + count second) (items : List α) :
    total (fun item => count (parts item)) items = count (items.flatMap parts) := by
  induction items with
  | nil => simp [total, empty]
  | cons item rest ih => simp only [total, ih, List.flatMap_cons, append]

/-! ## Meters -/

def received (part : Compiled) (holding : Holding) : Compiled :=
  { part with
    roles := part.roles + 1
    resources := part.resources + holding.resources.length }

/-- A weight of workers and holdings that every move of a single worker agrees with. -/
structure Meter where
  worker : Worker → Nat
  holding : Holding → Nat
  idle : worker (.waiting {}) = 0
  acquiring : ∀ part, worker (.receiving part) = worker (.waiting part)
  receiving : ∀ part taken,
    worker (.working (received part taken) taken.roleId taken.resources) =
      worker (.receiving part) + holding taken
  formatting : ∀ part roleId resource rest,
    worker (.working (addLine part (Line.ofResource roleId resource)) roleId rest) =
      worker (.working part roleId (resource :: rest))
  resting : ∀ part roleId, worker (.waiting part) = worker (.working part roleId [])
  leaving : ∀ part, worker (.ended part) = worker (.receiving part)
  crashed : worker .crashed = 0
  joined : worker .joined = 0

namespace Meter

/-- What the workers, the queue and the feed of a pool carry. -/
def tally (meter : Meter) (pool : Pool) : Nat :=
  total meter.worker pool.workers + total meter.holding pool.queue + total meter.holding pool.feed

theorem tally_start (meter : Meter) (size : PoolSize) (feed : List Holding) :
    meter.tally (start size feed) = total meter.holding feed := by
  simp [tally, start, total, total_replicate meter.worker _ _ meter.idle]

theorem tally_withWorker (meter : Meter) {pool : Pool} {index : Nat} {old : Worker}
    (found : pool.workers[index]? = some old) (new : Worker) :
    meter.tally (pool.withWorker index new) + meter.worker old =
      meter.tally pool + meter.worker new := by
  have changed := total_set meter.worker found new
  simp only [tally, withWorker]
  omega

end Meter

/-! ## The meters of a policy -/

/-- The lines that a worker has not formatted yet. -/
def ahead : Worker → List Line
  | .working _ roleId rest => (Holding.mk roleId rest).lines
  | _ => []

def part : Worker → Compiled
  | .waiting part | .receiving part | .working part _ _ | .ended part => part
  | .crashed | .joined => {}

def rolesMeter : Meter where
  worker := fun worker => (part worker).roles
  holding := fun _ => 1
  idle := rfl
  acquiring _ := rfl
  receiving _ _ := rfl
  formatting base roleId resource rest := by
    simp only [part, addLine]
    split <;> rfl
  resting _ _ := rfl
  leaving _ := rfl
  crashed := rfl
  joined := rfl

def resourcesMeter : Meter where
  worker := fun worker => (part worker).resources
  holding := fun holding => holding.resources.length
  idle := rfl
  acquiring _ := rfl
  receiving _ _ := rfl
  formatting base roleId resource rest := by
    simp only [part, addLine]
    split <;> rfl
  resting _ _ := rfl
  leaving _ := rfl
  crashed := rfl
  joined := rfl

theorem ahead_cons (base : Compiled) (roleId : String) (resource : Resource)
    (rest : List Resource) :
    ahead (.working base roleId (resource :: rest)) =
      Line.ofResource roleId resource :: ahead (.working base roleId rest) := rfl

theorem addLine_eq (base : Compiled) (line : Line) :
    addLine base line =
      if line.isStorable then { base with lines := line :: base.lines }
      else { base with rejected := base.rejected + 1 } := by
  cases kept : line.unstorable <;> simp [addLine, Line.isStorable, kept]

def rejectedMeter : Meter where
  worker := fun worker =>
    (part worker).rejected + (ahead worker).countP fun line => !line.isStorable
  holding := fun holding => holding.lines.countP fun line => !line.isStorable
  idle := rfl
  acquiring _ := rfl
  receiving _ _ := rfl
  formatting base roleId resource rest := by
    rw [ahead_cons, List.countP_cons, addLine_eq]
    cases kept : (Line.ofResource roleId resource).isStorable
    · simp [part, ahead]
      omega
    · simp [part, ahead]
  resting _ _ := rfl
  leaving _ := rfl
  crashed := rfl
  joined := rfl

/-- How often one line is held, or is still to be formatted and will be. -/
def lineMeter (line : Line) : Meter where
  worker := fun worker =>
    (part worker).lines.count line + ((ahead worker).filter Line.isStorable).count line
  holding := fun holding => (holding.lines.filter Line.isStorable).count line
  idle := rfl
  acquiring _ := rfl
  receiving _ _ := rfl
  formatting base roleId resource rest := by
    rw [ahead_cons, List.filter_cons, addLine_eq]
    cases kept : (Line.ofResource roleId resource).isStorable
    · simp [part, ahead]
    · simp [part, ahead, List.count_cons]
      omega
  resting _ _ := rfl
  leaving _ := rfl
  crashed := rfl
  joined := rfl

/-! ## What holdings weigh -/

theorem total_roles (holdings : List Holding) :
    total rolesMeter.holding holdings = holdings.length := by
  induction holdings with
  | nil => rfl
  | cons holding rest ih =>
      have one : rolesMeter.holding holding = 1 := rfl
      simp only [total, ih, one, List.length_cons]
      omega

theorem total_resources (holdings : List Holding) :
    total resourcesMeter.holding holdings = (holdings.flatMap Holding.resources).length :=
  total_flatMap Holding.resources List.length rfl (fun _ _ => List.length_append) holdings

theorem total_rejected (holdings : List Holding) :
    total rejectedMeter.holding holdings =
      (holdings.flatMap Holding.lines).countP fun line => !line.isStorable :=
  total_flatMap Holding.lines (List.countP fun line => !line.isStorable) rfl
    (fun _ _ => List.countP_append) holdings

theorem total_line_pos (line : Line) (holdings : List Holding) :
    0 < total (lineMeter line).holding holdings ↔
      line.isStorable = true ∧ ∃ holding ∈ holdings, line ∈ holding.lines := by
  have counted : total (lineMeter line).holding holdings =
      (holdings.flatMap fun holding => holding.lines.filter Line.isStorable).count line :=
    total_flatMap (fun holding : Holding => holding.lines.filter Line.isStorable)
      (List.count line) rfl (fun _ _ => List.count_append) holdings
  rw [counted, List.count_pos_iff, List.mem_flatMap]
  simp only [List.mem_filter]
  constructor
  · rintro ⟨holding, member, inside, kept⟩
    exact ⟨kept, holding, member, inside⟩
  · rintro ⟨kept, holding, member, inside⟩
    exact ⟨holding, member, inside, kept⟩

end Pool

end RoleGrants
