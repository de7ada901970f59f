import RoleGrants.Proofs.Sync.Beside

/-! # A journal of calls

Every call leaves the service on a footing: the generations and the marker that is
recorded.  The journal keeps an account of the call that is running, with the footing
that it found, the marker that it read and the policy that its workers handed over, and
of every call that has ended, with the footing that it left and its answer.  A call that
is given up leaves no answer.

What a call may do to the footing is said by `FinishedCall.Follows`: it leaves the footing
as it found it unless its answer has a generation, and then it has installed just this one. -/

set_option autoImplicit false

namespace RoleGrants

/-- What calls change for good. -/
structure Footing where
  handle : Handle
  lastApplied : Marker

def Service.footing (service : Service) : Footing :=
  ⟨service.handle, service.sync.lastApplied⟩

theorem Service.footing_eq {service after : Service} (handle : after.handle = service.handle)
    (sync : after.sync = service.sync) : after.footing = service.footing := by
  rw [footing, handle, sync]
  rfl

/-- The marker of the live generation, where it is one at all, has been recorded, or a later
one. -/
def Footing.IsBacked (footing : Footing) : Prop :=
  ∀ generation marker, footing.handle.current = some generation →
    generation.signal = some marker → Marker.least < marker → marker ≤ footing.lastApplied

def CallAnswer.generation? : CallAnswer → Option Generation
  | .outcome (.ok (.swapped generation)) => some generation
  | .tick (.reloaded generation) => some generation
  | _ => none

def Stage.generation? : Stage → Option Generation
  | .finished (.ok (.swapped generation)) => some generation
  | .ended answer => answer.generation?
  | _ => none

/-! ## Accounts -/

structure Account where
  before : Footing
  read : Option Marker := none
  compiled : Option Compiled := none

def Account.told (account : Account) (service : Service) : Account :=
  match service.sync.pass.map Pass.stage with
  | some .entered => { account with read := service.heard.toOption.join }
  | some (.compiling pool) => { account with compiled := pool.outcome.bind Except.toOption }
  | _ => account

/-- A call has installed this generation, and nothing but it. -/
structure Account.Installs (account : Account) (handle : Handle) (generation : Generation) :
    Prop where
  live : handle = ⟨some generation, account.before.handle.installed + 1⟩
  id : generation.id = account.before.handle.installed + 1
  signal : generation.signal = account.read
  lines : generation.lines = generation.engine.rules.length
  nonempty : 0 < generation.lines
  rules : ∃ compiled, account.compiled = some compiled ∧
    (compiled.lines.map Line.rule).Perm generation.engine.rules

structure FinishedCall where
  account : Account
  after : Footing
  answer : Option CallAnswer

namespace FinishedCall

def generation? (call : FinishedCall) : Option Generation :=
  call.answer.bind CallAnswer.generation?

def successes (calls : List FinishedCall) : Nat :=
  calls.countP fun call => call.generation?.isSome

/-- What a call does to the footing, behind those that ended before it. -/
structure Follows (call : FinishedCall) (earlier : List FinishedCall) : Prop where
  unchanged : call.generation? = none → call.after = call.account.before
  changed : ∀ generation, call.generation? = some generation →
    call.account.Installs call.after.handle generation ∧
      generation.id = successes earlier + 1

end FinishedCall

/-! ## Journals -/

structure Journal where
  service : Service
  account : Account
  calls : List FinishedCall := []

namespace Journal

def start (service : Service) : Journal where
  service := service
  account := { before := service.footing }

def closed (journal : Journal) (after : Service) (answer : Option CallAnswer) : Journal :=
  { journal with
    service := after
    calls := ⟨journal.account, after.footing, answer⟩ :: journal.calls }

def begun (journal : Journal) (caller : Caller) : Journal :=
  let account : Account := { before := journal.service.footing }
  match journal.service.begin caller with
  | (after, .waits) => { journal with service := after }
  | (after, .answered answer) =>
      { journal with
        service := after
        calls := ⟨account, after.footing, some answer⟩ :: journal.calls }
  | (after, .started) => { journal with service := after, account := account }

def moved (journal : Journal) (after : Service) : Journal :=
  { journal with service := after, account := journal.account.told journal.service }

def concluded (journal : Journal) : Journal :=
  match journal.service.conclude with
  | (after, none) => { journal with service := after }
  | (after, some answer) => journal.closed after (some answer)

def beside (journal : Journal) (after : Service) : Journal :=
  match journal.service.sync.pass, after.sync.pass with
  | some _, none => journal.closed after none
  | _, _ => { journal with service := after }

inductive Step (journal : Journal) : Journal → Prop
  | begun (caller : Caller) : Step journal (journal.begun caller)
  | moved (move : Move) (after : Service) (made : journal.service.move? move = some after) :
      Step journal (journal.moved after)
  | concluded : Step journal journal.concluded
  | beside (after : Service) (change : journal.service.Beside (fun _ => True) after) :
      Step journal (journal.beside after)

def Steps : Journal → Journal → Prop :=
  Relation.ReflTransGen Step

/-! ## Runs of one service -/

def advance (journal : Journal) : Journal :=
  match journal.service.sync.pass with
  | none => journal
  | some pass =>
      match (Service.nextMove? pass.stage).bind journal.service.move? with
      | none => journal
      | some after => journal.moved after

def advanceFor : Nat → Journal → Journal
  | 0, journal => journal
  | fuel + 1, journal => advanceFor fuel journal.advance

theorem advance_cases (journal : Journal) :
    journal.advance = journal ∨ journal.Step journal.advance := by
  rw [advance]
  split
  · exact .inl rfl
  · split
    · exact .inl rfl
    next after made =>
      obtain ⟨move, _, made⟩ := Option.bind_eq_some_iff.mp made
      exact .inr (.moved move after made)

theorem steps_advanceFor (fuel : Nat) (journal : Journal) :
    journal.Steps (advanceFor fuel journal) := by
  induction fuel generalizing journal with
  | zero => exact .refl
  | succ fuel ih =>
      refine .trans ?_ (ih journal.advance)
      rcases journal.advance_cases with same | step
      · rw [same]
      · exact .single step

end Journal
end RoleGrants
