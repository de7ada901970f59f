import RoleGrants.Proofs.Sync.Journal
import RoleGrants.Proofs.Sync.Turns

/-! # The entries of a journal

`Journal.Entry` lists all that a step can do to a journal (`Journal.Step.entry`): a call
enters or is refused, something changes around the calls, the running pass moves or is
handed something from elsewhere, and it gives its place back or is given up. -/

set_option autoImplicit false

namespace RoleGrants

/-- What a running pass may be handed from elsewhere: what a worker has done, or an engine. -/
inductive Stage.Handed : Stage → Stage → Prop
  | worked (pool next : Pool) (formatter : Formatter) (event : Pool.Event)
      (stepped : pool.step? formatter event = some next) :
      Handed (.compiling pool) (.compiling next)
  | unsupplied (compiled : Compiled) (error : PolicyError) :
      Handed (.building compiled) (.finished (.error error))
  | supplied (compiled : Compiled) (engine : Engine)
      (checked : verifyRules compiled engine = .ok ()) :
      Handed (.building compiled) (.installing compiled engine)

theorem Stage.Handed.going {stage next : Stage} (handed : stage.Handed next) :
    stage.isUnderWay = true ∧ next.isUnderWay = true ∧ next.isPlain = true := by
  cases handed <;> exact ⟨rfl, rfl, rfl⟩

namespace Journal

variable {journal next : Journal}

inductive Entry (journal : Journal) : Journal → Prop
  | entered (caller : Caller) (free : journal.service.sync.pass = none) :
      Entry journal { journal with
        service := journal.service.enter caller
        account := { before := journal.service.footing } }
  | refused (after : Service) (answer : CallAnswer)
      (handle : after.handle = journal.service.handle) (sync : after.sync = journal.service.sync)
      (told : answer = .tick .busy ∨ answer = .outcome (.error .inProgress)) :
      Entry journal { journal with
        service := after
        calls := ⟨{ before := journal.service.footing }, after.footing, some answer⟩ ::
          journal.calls }
  | aside (after : Service) (handle : after.handle = journal.service.handle)
      (sync : after.sync = journal.service.sync) : Entry journal { journal with service := after }
  | moved (pass : Pass) (move : Move) (after : Service)
      (running : journal.service.sync.pass = some pass)
      (moved : journal.service.Moved pass move after) : Entry journal (journal.moved after)
  | handed (pass : Pass) (stage : Stage) (running : journal.service.sync.pass = some pass)
      (handed : pass.stage.Handed stage) :
      Entry journal { journal with service := journal.service.toStage pass stage }
  | closed (pass : Pass) (answer : CallAnswer) (running : journal.service.sync.pass = some pass)
      (here : pass.stage = .ended answer) :
      Entry journal (journal.closed journal.service.giveUp (some answer))
  | abandoned (pass : Pass) (running : journal.service.sync.pass = some pass)
      (waiting : pass.stage.isWaiting = true) :
      Entry journal (journal.closed journal.service.giveUp none)

theorem entry_begun (journal : Journal) (caller : Caller) :
    journal.Entry (journal.begun caller) := by
  cases running : journal.service.sync.pass with
  | none =>
      have started : journal.service.begin caller = (journal.service.enter caller, .started) := by
        simp only [Service.begin, running]
      simp only [begun, started]
      exact .entered caller running
  | some pass =>
      simp only [begun, Service.begin, running]
      cases caller with
      | load => exact .aside journal.service rfl rfl
      | reload => exact .refused journal.service _ rfl rfl (.inr rfl)
      | tick =>
          exact .refused (journal.service.counting (journal.service.metrics.ticksSkipped 1)) _
            rfl rfl (.inl rfl)

theorem entry_concluded (journal : Journal) : journal.Entry journal.concluded := by
  rcases journal.service.conclude_cases with ⟨pass, answer, running, here, same⟩ | same
  · simp only [concluded, same]
    exact .closed pass answer running here
  · simp only [concluded, same]
    exact .aside journal.service rfl rfl

theorem entry_toStage {pass : Pass} {stage : Stage}
    (running : journal.service.sync.pass = some pass) (handed : pass.stage.Handed stage) :
    journal.Entry (journal.beside (journal.service.toStage pass stage)) := by
  have stays : journal.beside (journal.service.toStage pass stage) =
      { journal with service := journal.service.toStage pass stage } := by
    simp only [beside, Service.toStage, running]
  rw [stays]
  exact .handed pass stage running handed

theorem entry_beside {after : Service} (change : journal.service.Beside (fun _ => True) after) :
    journal.Entry (journal.beside after) := by
  cases change with
  | elsewhere _ handle sync =>
      have stays : journal.beside after = { journal with service := after } := by
        rw [beside, sync]
        cases journal.service.sync.pass <;> rfl
      rw [stays]
      exact .aside after handle sync
  | worked pass pool next formatter event running here stepped =>
      exact entry_toStage running (here ▸ .worked pool next formatter event stepped)
  | supplied pass compiled answer made running here =>
      rcases Service.receiveEngine_cases journal.service pass compiled answer with
        ⟨error, same⟩ | ⟨engine, _, checked, same⟩
      · rw [same]
        exact entry_toStage running (here ▸ .unsupplied compiled error)
      · rw [same]
        exact entry_toStage running (here ▸ .supplied compiled engine checked)
  | givenUp pass running waiting =>
      have closes : journal.beside journal.service.giveUp =
          journal.closed journal.service.giveUp none := by
        simp only [beside, Service.giveUp, running]
      rw [closes]
      exact .abandoned pass running waiting

theorem Step.entry (step : journal.Step next) : journal.Entry next := by
  cases step with
  | begun caller => exact journal.entry_begun caller
  | moved move after made =>
      obtain ⟨pass, running, moved⟩ := Service.moved_of_move? made
      exact .moved pass move after running moved
  | concluded => exact journal.entry_concluded
  | beside after change => exact entry_beside change

end Journal
end RoleGrants
