import RoleGrants.Proofs.Settings.Prefixes

/-! # Settings that the service can run with

A count comes from a variable, from the file or from the program, and neither of the first
two gives a zero (`Environment.count_pos`, `positiveOr_pos`): so no count that is in force is
one, whichever layers gave them (`IsCounted`).  Where something is kept in the database is
told by two layers, and so is where the database is; whether they go together is looked at
once, after both (`of_read`), and a start that comes that far knows its database
(`accepted_settings_are_runnable`). -/

set_option autoImplicit false

namespace RoleGrants

theorem Environment.count_pos (environment : Environment) (name : String) (limit : Nat)
    {default : Nat} (positive : 0 < default) : 0 < environment.count name limit default := by
  unfold count
  cases given : (environment.value? name).bind (positive? limit) with
  | none => exact positive
  | some number =>
      obtain ⟨text, -, read⟩ := Option.bind_eq_some_iff.mp given
      exact of_decide_eq_true (Option.filter_eq_some_iff.mp read).2

theorem positiveOr_pos (given : Option Nat) {present : Nat} (positive : 0 < present) :
    0 < positiveOr given present := by
  unfold positiveOr
  cases kept : given.filter fun count => 0 < count with
  | none => exact positive
  | some number => exact of_decide_eq_true (Option.filter_eq_some_iff.mp kept).2

structure DatabaseSettings.IsCounted (database : DatabaseSettings) : Prop where
  connections : 1 ≤ database.maxConnections
  timeout : 1 ≤ database.acquireTimeout

namespace DatabaseSettings

theorem isCounted_default : IsCounted {} where
  connections := by decide
  timeout := by decide

/-- Settings of the database stay counted, also if the file is the first to speak of it. -/
theorem IsCounted.apply (given : DatabaseOverrides) {present : Option DatabaseSettings}
    (counted : ∀ database ∈ present, database.IsCounted) : (given.apply present).IsCounted := by
  have base : (present.getD {}).IsCounted := by
    cases present with
    | none => exact isCounted_default
    | some database => exact counted database rfl
  constructor
  · exact positiveOr_pos given.maxConnections base.connections
  · exact positiveOr_pos given.acquireTimeout base.timeout

end DatabaseSettings

namespace Settings

structure IsCounted (settings : Settings) : Prop where
  workers : 1 ≤ settings.loadWorkers
  depth : 1 ≤ settings.queueDepth
  interval : 1 ≤ settings.reloadInterval
  database : ∀ database ∈ settings.database, database.IsCounted

namespace IsCounted

variable {environment : Environment} {settings : Settings}

theorem databaseOf :
    ∀ database ∈ Settings.databaseOf environment, database.IsCounted := by
  intro database named
  obtain ⟨url, -, rfl⟩ := Option.map_eq_some_iff.mp named
  constructor
  · exact environment.count_pos "POLICYD_PG_MAX_CONNECTIONS" Text.largest32 (by decide)
  · exact environment.count_pos "POLICYD_PG_ACQUIRE_TIMEOUT_MS" Text.largest64 (by decide)

theorem ofEnvironment (given : Settings.ofEnvironment environment = .ok settings) :
    settings.IsCounted := by
  obtain ⟨_, _, given⟩ := bind_eq_ok given
  obtain ⟨_, _, given⟩ := bind_eq_ok given
  obtain ⟨_, _, given⟩ := bind_eq_ok given
  obtain ⟨_, _, given⟩ := bind_eq_ok given
  cases given
  constructor
  · exact environment.count_pos "POLICYD_LOAD_WORKERS" Text.largest64 (by decide)
  · exact environment.count_pos "POLICYD_QUEUE_DEPTH" Text.largest64 (by decide)
  · exact environment.count_pos "POLICYD_RELOAD_INTERVAL_MS" Text.largest64 (by decide)
  · exact databaseOf

theorem apply {overrides : Overrides} {present : Settings} (counted : present.IsCounted)
    (joined : overrides.apply present = .ok settings) : settings.IsCounted := by
  obtain ⟨_, _, joined⟩ := bind_eq_ok joined
  obtain ⟨_, _, joined⟩ := bind_eq_ok joined
  obtain ⟨_, _, joined⟩ := bind_eq_ok joined
  obtain ⟨_, _, joined⟩ := bind_eq_ok joined
  cases joined
  constructor
  · exact positiveOr_pos overrides.loadWorkers counted.workers
  · exact positiveOr_pos overrides.queueDepth counted.depth
  · exact positiveOr_pos overrides.reloadInterval counted.interval
  · intro database known
    dsimp only at known
    split at known
    next given named =>
      cases known
      exact DatabaseSettings.IsCounted.apply given counted.database
    next unnamed => exact counted.database database known

theorem read {files : Files} (accepted : Settings.read environment files = .ok settings) :
    settings.IsCounted := by
  obtain ⟨present, given, joined, -⟩ := of_read accepted
  exact (ofEnvironment given).apply joined

end IsCounted

theorem usesDatabase_iff (settings : Settings) :
    settings.usesDatabase = true ↔ settings.storage = .postgres ∨ settings.cache = .postgres := by
  simp [usesDatabase]

theorem hasDatabaseUrl_iff (settings : Settings) :
    settings.hasDatabaseUrl = true ↔
      ∃ database, settings.database = some database ∧ Text.trim database.url ≠ "" := by
  unfold hasDatabaseUrl
  cases settings.database with
  | none => simp
  | some database => simp

end Settings

namespace Service

variable (settings : Settings) (files : Files) (clock : Clock)

theorem reachDatabase_eq_databaseMissing_iff :
    reachDatabase settings = .error .databaseMissing ↔
      settings.usesDatabase = true ∧ settings.database = none := by
  unfold reachDatabase
  cases settings.usesDatabase with
  | false => simp
  | true => cases settings.database <;> simp

theorem seededStore_ne_databaseMissing : seededStore settings files ≠ .error .databaseMissing := by
  unfold seededStore
  repeat' split
  all_goals simp

theorem loadFirst_ne_databaseMissing (service : Service) (interval : Nat) :
    service.loadFirst interval ≠ .error .databaseMissing := by
  unfold loadFirst
  repeat' split
  all_goals simp

theorem bindListener_ne_databaseMissing (address : Address) :
    bindListener address ≠ .error .databaseMissing := by
  unfold bindListener
  split <;> simp

theorem reachDatabase_of_assemble
    (failed : assemble settings files clock = .error .databaseMissing) :
    reachDatabase settings = .error .databaseMissing := by
  rcases bind_eq_error failed with missing | ⟨_, -, failed⟩
  · exact missing
  rcases bind_eq_error failed with missing | ⟨store, -, failed⟩
  · exact absurd missing (seededStore_ne_databaseMissing settings files)
  · split at failed
    · cases failed
    · cases failed

theorem reachDatabase_of_start
    (failed : start settings files clock = .error .databaseMissing) :
    reachDatabase settings = .error .databaseMissing := by
  rcases bind_eq_error failed with missing | ⟨assembled, -, failed⟩
  · exact reachDatabase_of_assemble settings files clock missing
  have bound : ∀ running : Service,
      (bindListener settings.bind >>= fun _ => pure running) ≠ .error .databaseMissing := by
    intro running failed
    rcases bind_eq_error failed with missing | ⟨_, -, failed⟩
    · exact bindListener_ne_databaseMissing settings.bind missing
    · cases failed
  dsimp only at failed
  split at failed
  · rcases bind_eq_error failed with missing | ⟨running, -, failed⟩
    · exact absurd missing (loadFirst_ne_databaseMissing assembled settings.reloadInterval)
    · exact absurd failed (bound running)
  · exact absurd failed (bound assembled)

end Service

/-- Of accepted settings no count is zero: not the workers, the depth of their queue or the
interval of the loop, and not the connections of a database or the time that one is waited
for.  If the storage or the cache is the database, whichever layer said so, then the database
is known by a url that is not blank.  So no start with these settings ends because the
database is missing. -/
theorem accepted_settings_are_runnable {environment : Environment} {files : Files}
    {settings : Settings} (accepted : Settings.read environment files = .ok settings) :
    1 ≤ settings.loadWorkers ∧ 1 ≤ settings.queueDepth ∧ 1 ≤ settings.reloadInterval ∧
      (∀ database, settings.database = some database →
        1 ≤ database.maxConnections ∧ 1 ≤ database.acquireTimeout) ∧
      (settings.storage = .postgres ∨ settings.cache = .postgres →
        ∃ database, settings.database = some database ∧ Text.trim database.url ≠ "") ∧
      (∀ served clock, Service.assemble settings served clock ≠ .error .databaseMissing) ∧
      ∀ served clock, Service.start settings served clock ≠ .error .databaseMissing := by
  have counted := Settings.IsCounted.read accepted
  obtain ⟨_, _, _, complete⟩ := Settings.of_read accepted
  have located : settings.storage = .postgres ∨ settings.cache = .postgres →
      ∃ database, settings.database = some database ∧ Text.trim database.url ≠ "" := by
    rw [← Settings.usesDatabase_iff, ← Settings.hasDatabaseUrl_iff]
    exact complete
  have reached : Service.reachDatabase settings ≠ .error .databaseMissing := by
    rw [Ne, Service.reachDatabase_eq_databaseMissing_iff, Settings.usesDatabase_iff]
    rintro ⟨uses, missing⟩
    obtain ⟨database, known, -⟩ := located uses
    rw [missing] at known
    cases known
  refine ⟨counted.workers, counted.depth, counted.interval, ?_, located, ?_, ?_⟩
  · intro database known
    have own := counted.database database known
    exact ⟨own.connections, own.timeout⟩
  · intro served clock failed
    exact reached (Service.reachDatabase_of_assemble settings served clock failed)
  · intro served clock failed
    exact reached (Service.reachDatabase_of_start settings served clock failed)

/-- The cache is chosen by a variable and the database is named by the file; the zeros that
both give leave the counts that the program has. -/
theorem zeros_of_both_layers_are_left_out :
    let environment := [("POLICYD_CACHE", "postgres"), ("POLICYD_LOAD_WORKERS", "0"),
      ("POLICYD_CONFIG", "/settings")]
    let files := ({} : Files).put (Place.root.child "settings")
      (.file "queue_depth: 0\npostgres:\n  url: postgres://db/roles\n  max_connections: 0\n" false)
    let settings := { Settings.standard ⟨[], []⟩ with
      cache := .postgres
      database := some { url := "postgres://db/roles" } }
    Settings.read environment files = .ok settings ∧
      1 ≤ settings.loadWorkers ∧ 1 ≤ settings.queueDepth ∧
      ∀ clock, Service.start settings files clock ≠ .error .databaseMissing := by
  intro environment files settings
  have accepted : Settings.read environment files = .ok settings := by decide +kernel
  obtain ⟨workers, depth, _, _, _, _, starts⟩ := accepted_settings_are_runnable accepted
  exact ⟨accepted, workers, depth, starts files⟩

end RoleGrants
