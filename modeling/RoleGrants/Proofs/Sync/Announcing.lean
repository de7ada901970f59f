import RoleGrants.Proofs.Signal.Markers
import RoleGrants.Proofs.Sync.Runs

/-! # Announced changes

The store is changed, and every change is announced by a bump behind it.  A bump
reads the signal and writes the next marker in two steps, between which anything
else may happen but another bump.  The versions of the store are counted, so that it
can be said which of them a pass has asked and which of them a marker announces.

Only the moves that ask (`Service.query?`) read the store at all (`move?_withStore`). -/

set_option autoImplicit false

namespace RoleGrants

/-! ## What a pass asks of the store -/

def Gather.query? (roleId : String) : Gather → Option Query
  | .linked => some (.roleMenus roleId)
  | .parents _ wanted => some (.menus wanted)
  | .collect known => some (.menuResources known)
  | .done _ => none

namespace Service

def query? (service : Service) (move : Move) : Option Query :=
  match service.sync.pass with
  | none => none
  | some pass =>
      match pass.stage, move with
      | .listing, .onward => some .enabledRoles
      | .gathering jobs _, .gather index =>
          jobs[index]?.bind fun job => job.gather.query? job.roleId
      | _, _ => none

def withStore (service : Service) (store : StoreAccess) : Service :=
  { service with store := store }

theorem record_withStore (service : Service) (pass : Pass) (result : Except PolicyError PassOutcome)
    (store : StoreAccess) :
    (service.withStore store).record pass result =
      (service.record pass result).withStore store := by
  cases result with
  | error error => rfl
  | ok outcome =>
      cases outcome with
      | swapped generation => rfl
      | empty => rfl

theorem buildForPass_withStore (service : Service) (pass : Pass) (compiled : Compiled)
    (store : StoreAccess) :
    (service.withStore store).buildForPass pass compiled =
      (service.buildForPass pass compiled).withStore store := by
  have same : (service.withStore store).buildEngine =
      (service.buildEngine.1.withStore store, service.buildEngine.2) := by
    rw [buildEngine, buildEngine]
    simp only [withStore]
    split
    · rfl
    · split <;> rfl
  rw [buildForPass, buildForPass, same]
  cases service.buildEngine with
  | mk after answer =>
      cases answer with
      | error error => rfl
      | ok engine =>
          simp only
          cases verifyRules compiled engine with
          | error error => rfl
          | ok _ => rfl

theorem readForPass_withStore (service : Service) (pass : Pass) (store : StoreAccess) :
    (service.withStore store).readForPass pass = (service.readForPass pass).withStore store := by
  have same : (service.withStore store).readSignal =
      (service.afterReading.withStore store, service.heard) := rfl
  have reading : service.readSignal = (service.afterReading, service.heard) := rfl
  rw [readForPass, readForPass]
  split
  · rw [readForTick, readForTick, same, reading]
    cases service.heard with
    | error error => rfl
    | ok signal =>
        cases signal with
        | none => rfl
        | some marker =>
            have covered : (service.afterReading.withStore store).sync.covers marker =
                service.afterReading.sync.covers marker := rfl
            simp only
            rw [covered]
            split <;> rfl
  · rw [readInAnyCase, readInAnyCase, same, reading]
    cases service.heard <;> rfl

theorem gatherAt_withStore (service : Service) (pass : Pass) (jobs : List Job)
    (holdings : List Holding) (index : Nat) (store : StoreAccess)
    (silent : (jobs[index]?.bind fun job => job.gather.query? job.roleId) = none) :
    (service.withStore store).gatherAt pass jobs holdings index =
      (service.gatherAt pass jobs holdings index).map fun after => after.withStore store := by
  have size : (service.withStore store).settings = service.settings := rfl
  rw [gatherAt, gatherAt, size]
  split
  · cases found : jobs[index]? with
    | none => rfl
    | some job =>
        obtain ⟨roleId, gather⟩ := job
        rw [found] at silent
        cases gather with
        | done answer => cases answer <;> rfl
        | linked => cases silent
        | parents known wanted => cases silent
        | collect known => cases silent
  · rfl

/-- A move that asks nothing does not see the store. -/
theorem move?_withStore (service : Service) (move : Move) (store : StoreAccess)
    (silent : service.query? move = none) :
    (service.withStore store).move? move = (service.move? move).map fun after =>
      after.withStore store := by
  have same : (service.withStore store).sync = service.sync := rfl
  rw [query?] at silent
  rw [move?, move?, same]
  cases running : service.sync.pass with
  | none => rfl
  | some pass =>
      rw [running] at silent
      simp only at silent ⊢
      split
      next here => exact congrArg some (readForPass_withStore service pass store)
      next here =>
        rw [here] at silent
        cases silent
      next holdings here => rfl
      next jobs holdings index here =>
        rw [here] at silent
        exact gatherAt_withStore service pass jobs holdings index store silent
      next pool event here =>
        cases pool.step? Formatter.plain event <;> rfl
      next pool here =>
        cases pool.outcome with
        | none => rfl
        | some answer =>
            cases answer with
            | error text => rfl
            | ok compiled =>
                simp only [Option.map_some, receiveCompiled]
                split <;> rfl
      next compiled publish here =>
        simp only [advancePublishing, Option.map_some]
        split <;> rfl
      next compiled here => exact congrArg some (buildForPass_withStore service pass compiled store)
      next compiled engine here => rfl
      next result here => exact congrArg some (record_withStore service pass result store)
      next => rfl

/-! ## A bump in two steps -/

def readForBump (service : Service) : Service × Except SignalError (Option Marker) :=
  (service.afterReading, Signal.current service.heard)

def writeForBump (service : Service) (present : Option Marker) :
    Service × Except SignalError Marker :=
  let (timed, now) := service.readWall
  let (cache, answer) :=
    service.signal.write timed.cache timed.clock.instant (Marker.next now present)
  ({ timed with cache := cache }, answer)

/-- With nothing between its steps a bump is the one that the service makes. -/
theorem bumpSignal_of_readForBump {service : Service} {present : Option Marker}
    (read : service.readForBump.2 = .ok present) :
    service.bumpSignal = service.readForBump.1.writeForBump present := by
  have current : Signal.current (service.signal.read service.cache service.clock.instant).2 =
      .ok present := read
  simp only [bumpSignal, bumpSignalAt, Signal.bump, readWall, readForBump, afterReading,
    writeForBump]
  rw [current]

/-! ## The key of the signal -/

def underKey (service : Service) : Option CacheEntry :=
  service.cache.memory.entries.get?
    (service.cache.memory.keyOf service.signal.scope service.signal.key)

def entryOf (marker : Marker) : CacheEntry :=
  { value := marker.text }

theorem reading_cases {service : Service} {written : Option Marker}
    (key : service.underKey = written.map entryOf)
    (bounded : ∀ marker, written = some marker →
      Marker.least ≤ marker ∧ marker < Marker.greatest) :
    service.afterReading = service ∧
      (service.heard = .ok written ∨ ∃ error, service.heard = .error (.cache error)) := by
  have under : service.signal.underKey service.cache = written.map entryOf := key
  have kept : ∀ entry, service.signal.underKey service.cache = some entry →
      entry.expiresAt = none := by
    intro entry found
    rw [under] at found
    obtain ⟨marker, _, rfl⟩ := Option.map_eq_some_iff.mp found
    rfl
  obtain ⟨unchanged, answered⟩ := Signal.read_cases service.clock.instant kept
  refine ⟨?_, ?_⟩
  · rw [afterReading, unchanged]
  rcases answered with ⟨error, refused⟩ | told
  · exact .inr ⟨error, refused⟩
  left
  rw [heard, told, under]
  cases written with
  | none => rfl
  | some marker =>
      obtain ⟨above, below⟩ := bounded marker rfl
      rw [Option.map_some, Option.map_some, Signal.interpret, entryOf]
      simp only [Marker.ofText?_text above (Int.le_of_lt below)]

theorem readForBump_cases {service : Service} {written : Option Marker}
    (key : service.underKey = written.map entryOf)
    (bounded : ∀ marker, written = some marker →
      Marker.least ≤ marker ∧ marker < Marker.greatest) :
    service.readForBump.1 = service ∧
      (service.readForBump.2 = .ok written ∨ ∃ error, service.readForBump.2 = .error error) := by
  obtain ⟨same, answered | ⟨error, refused⟩⟩ := reading_cases key bounded
  · refine ⟨same, .inl ?_⟩
    rw [readForBump, answered]
    rfl
  · refine ⟨same, .inr ⟨.cache error, ?_⟩⟩
    rw [readForBump, refused]
    rfl

theorem writeForBump_cases (service : Service) (present : Option Marker) :
    (∃ clock error, service.writeForBump present =
      ({ service with clock := clock }, .error error)) ∨
    ∃ after, service.writeForBump present =
        (after, .ok (Marker.next service.clock.wall present)) ∧
      after.underKey = some (entryOf (Marker.next service.clock.wall present)) ∧
      after.sync = service.sync ∧ after.handle = service.handle := by
  have cache : service.readWall.1.cache = service.cache := rfl
  rw [writeForBump]
  simp only
  rw [cache]
  rcases Signal.write_cases service.signal service.cache service.readWall.1.clock.instant
      (Marker.next service.readWall.2 present) with
    ⟨error, refused⟩ | ⟨after, written, under⟩
  · rw [refused]
    exact .inl ⟨_, .cache error, rfl⟩
  · rw [written]
    exact .inr ⟨_, rfl, under, rfl, rfl⟩

end Service

/-! ## The world around a service -/

structure Announcement where
  marker : Marker
  version : Nat
  deriving DecidableEq

structure Bump where
  present : Option Marker
  version : Nat

/-- A service and what has happened to it: the versions of the store counted, the last
marker written, the bumps that came to their end, those of them that the running pass
could hear of, and the versions of the store that the running pass and the pass of the
live generation have asked. -/
structure World where
  service : Service
  version : Nat := 0
  bump : Option Bump := none
  written : Option Marker := none
  announced : List Announcement := []
  heard : List Announcement := []
  asked : List Nat := []
  live : List Nat := []

def isEntered : Stage → Bool
  | .entered => true
  | _ => false

namespace World

def begun (world : World) (caller : Caller) : World :=
  match world.service.sync.pass with
  | none => { world with service := world.service.enter caller, asked := [] }
  | some _ => { world with service := (world.service.begin caller).1 }

def moved (world : World) (move : Move) (after : Service) : World :=
  { world with
    service := after
    heard := if world.service.isAt isEntered then world.announced else world.heard
    asked := if (world.service.query? move).isSome then world.version :: world.asked
      else world.asked
    live := if world.service.handle.installed < after.handle.installed then world.asked
      else world.live }

def concluded (world : World) : World :=
  { world with service := world.service.conclude.1 }

def dropped (world : World) : World :=
  { world with service.sync.pass := none }

def mutated (world : World) (memory : Store) : World :=
  { world with service.store.memory := memory, version := world.version + 1 }

def bumpBegun (world : World) : World :=
  { world with
    service := world.service.readForBump.1
    bump := world.service.readForBump.2.toOption.map fun present => ⟨present, world.version⟩ }

def bumpEnded (world : World) (bump : Bump) : World :=
  match world.service.writeForBump bump.present with
  | (after, .error _) => { world with service := after, bump := none }
  | (after, .ok marker) =>
      { world with
        service := after
        bump := none
        written := some marker
        announced := ⟨marker, bump.version⟩ :: world.announced }

end World

/-- What may change around: anything but the rows of the store, the passes, the
generations and what is under the key of the signal. -/
structure Service.Apart (service after : Service) : Prop where
  rows : after.store.memory = service.store.memory
  sync : after.sync = service.sync
  handle : after.handle = service.handle
  key : after.underKey = service.underKey

/-- One thing that happens.  Bumps do not overlap, and none comes to the greatest marker. -/
inductive World.Step (world : World) : World → Prop
  | begun (caller : Caller) : World.Step world (world.begun caller)
  | moved (move : Move) (after : Service) (made : world.service.move? move = some after) :
      World.Step world (world.moved move after)
  | concluded : World.Step world world.concluded
  | dropped : World.Step world world.dropped
  | mutated (memory : Store) : World.Step world (world.mutated memory)
  | bumpBegun (free : world.bump = none) : World.Step world world.bumpBegun
  | bumpEnded (bump : Bump) (going : world.bump = some bump)
      (timed : Marker.least ≤ world.service.clock.wall)
      (room : Marker.next world.service.clock.wall bump.present < Marker.greatest) :
      World.Step world (world.bumpEnded bump)
  | changed (after : Service) (apart : world.service.Apart after) :
      World.Step world { world with service := after }

def World.Steps : World → World → Prop :=
  Relation.ReflTransGen World.Step

/-! ## Beginnings and ends -/

structure Service.Fresh (service : Service) : Prop where
  unapplied : service.sync.lastApplied = Marker.least
  idle : service.sync.pass = none
  absent : service.underKey = none

namespace World

def start (service : Service) : World :=
  { service := service }

/-- The pass of the live generation has asked the store, and only versions with this change. -/
def Reflects (world : World) (change : Announcement) : Prop :=
  world.service.handle.current.isSome = true ∧ world.live ≠ [] ∧
    ∀ version ∈ world.live, change.version ≤ version ∧ version ≤ world.version

def Answers (world : World) (answer : CallAnswer) : Prop :=
  world.service.conclude.2 = some answer

theorem exists_pass_of_answers {world : World} {answer : CallAnswer}
    (answers : world.Answers answer) :
    ∃ pass, world.service.sync.pass = some pass ∧ pass.stage = .ended answer := by
  rw [Answers] at answers
  rcases world.service.conclude_cases with ⟨pass, other, running, here, same⟩ | same
  · rw [same] at answers
    cases answers
    exact ⟨pass, running, here⟩
  · rw [same] at answers
    cases answers

/-! ## Runs of one service -/

def advance (world : World) : World :=
  match world.service.sync.pass with
  | none => world
  | some pass =>
      match Service.nextMove? pass.stage with
      | none => world
      | some move =>
          match world.service.move? move with
          | none => world
          | some after => world.moved move after

def advanceFor : Nat → World → World
  | 0, world => world
  | fuel + 1, world => advanceFor fuel world.advance

theorem steps_advanceFor (fuel : Nat) (world : World) : world.Steps (advanceFor fuel world) := by
  induction fuel generalizing world with
  | zero => exact .refl
  | succ fuel ih =>
      refine .trans ?_ (ih world.advance)
      rw [advance]
      split
      · exact .refl
      · split
        · exact .refl
        next move next =>
          split
          · exact .refl
          next after made => exact .single (.moved move after made)

end World
end RoleGrants
