import RoleGrants.Database.Options
import RoleGrants.Settings.Overrides
import RoleGrants.Store.Seed
import RoleGrants.Sync.Loop

/-! # Starting the service

The settings come first, then the database if one is used, then the store with
its seed, then the model file.  While enforcement is on, a policy is loaded and
the loop is started; at last the listener is bound.  The first step that fails
ends the start. -/

set_option autoImplicit false

namespace RoleGrants

inductive StartError where
  | settings (cause : SettingsError)
  | databaseMissing
  | database (cause : DatabaseError)
  | seed (cause : SeedError)
  | seedRefused (path : PathName) (cause : StoreError)
  | model (path : PathName) (cause : PolicyError)
  | load (cause : PolicyError)
  | aborted
  | bind (address : Address) (cause : OsError)
  deriving DecidableEq, Repr

namespace StartError

def chain : StartError → List String
  | .settings cause => "policyd config" :: cause.chain
  | .databaseMissing => ["postgres configuration missing"]
  | .database cause => "connect postgres" :: (StoreError.database cause).chain
  | .seed cause => cause.chain
  | .seedRefused path cause => ("apply seed " ++ path) :: cause.chain
  | .model path cause => ("materialize model " ++ path) :: cause.chain
  | .load cause => "initial policy load" :: cause.chain
  | .aborted => []
  | .bind address cause => ["bind " ++ address.text, cause.message]

def causeRows : Nat → List String → List String
  | _, [] => []
  | number, cause :: causes =>
      ("    " ++ toString number ++ ": " ++ cause) :: causeRows (number + 1) causes

def report (error : StartError) : List String :=
  match error.chain with
  | [] => []
  | [text] => ["Error: " ++ text]
  | [text, cause] => ["Error: " ++ text, "", "Caused by:", "    " ++ cause]
  | text :: causes => ["Error: " ++ text, "", "Caused by:"] ++ causeRows 0 causes

end StartError

namespace Service

/-- No server answers, so a start that needs the database ends here. -/
def reachDatabase (settings : Settings) : Except StartError Unit :=
  if settings.usesDatabase then
    match settings.database with
    | none => .error .databaseMissing
    | some database => .error (.database (Database.connect database.url))
  else .ok ()

/-- The rows that the service starts with; only a store in memory is seeded. -/
def seededStore (settings : Settings) (files : Files) : Except StartError Store :=
  match settings.storage, settings.seedFile with
  | .memory, some path =>
      match Seed.ofFile files path with
      | .error cause => .error (.seed cause)
      | .ok seed =>
          match seed.apply Store.empty with
          | (_, .error cause) => .error (.seedRefused path cause)
          | (store, .ok ()) => .ok store
  | _, _ => .ok Store.empty

def ofSettings (settings : Settings) (store : Store) (files : Files) (clock : Clock) : Service where
  store := { memory := store, backend := settings.storage }
  cache := { backend := settings.cache }
  signal := { scope := settings.signalScope, key := settings.signalKey }
  authorizer := { rules := settings.rules, enabled := settings.enabled }
  files := files
  settings :=
    { modelPath := settings.modelPath
      policyPath := settings.policyPath
      size := PoolSize.raised settings.loadWorkers settings.queueDepth }
  clock := clock

def assemble (settings : Settings) (files : Files) (clock : Clock) :
    Except StartError Service := do
  reachDatabase settings
  let store ← seededStore settings files
  match ensureModel files settings.modelPath builtInModel with
  | (_, .error cause) => .error (.model settings.modelPath cause)
  | (written, .ok _) => return ofSettings settings store written clock

/-- The first load and the loop; an empty policy is no failure. -/
def loadFirst (service : Service) (interval : Nat) : Except StartError Service :=
  match service.load with
  | (_, some (.outcome (.error cause))) => .error (.load cause)
  | (_, some .aborted) => .error .aborted
  | (loaded, _) => .ok (loaded.spawnLoop interval)

/-- Only addresses of this machine can be bound. -/
def bindListener (address : Address) : Except StartError Unit :=
  if address.isLocal then .ok () else .error (.bind address .addressNotAvailable)

def start (settings : Settings) (files : Files) (clock : Clock) : Except StartError Service := do
  let assembled ← assemble settings files clock
  let running ←
    if settings.enabled then assembled.loadFirst settings.reloadInterval else pure assembled
  bindListener settings.bind
  return running

def startIn (environment : Environment) (files : Files) (clock : Clock) :
    Except StartError Service :=
  match Settings.read environment files with
  | .error cause => .error (.settings cause)
  | .ok settings => start settings files clock

end Service

end RoleGrants
