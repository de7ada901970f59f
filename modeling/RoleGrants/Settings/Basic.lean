import RoleGrants.Address
import RoleGrants.Policy.Authorize
import RoleGrants.Settings.Environment
import RoleGrants.Settings.Error
import RoleGrants.Store.Queries

/-! # Settings

What the service is told before it starts, each setting with the variable of
the environment that gives it.  Files are named relative to the work folder.
Of variables that cannot be read the address of the listener is reported first,
then that of the metrics, then the storage, then the cache. -/

set_option autoImplicit false

namespace RoleGrants

structure DatabaseSettings where
  url : String := ""
  maxConnections : Nat := 10
  acquireTimeout : Nat := 5000
  deriving DecidableEq, Repr

/-- Durations are in milliseconds. -/
structure Settings where
  bind : Address
  metricsBind : Address
  enabled : Bool
  workFolder : PathName
  modelFile : PathName
  policyFile : PathName
  loadWorkers : Nat
  queueDepth : Nat
  reloadInterval : Nat
  signalScope : String
  signalKey : String
  storage : Backend
  cache : Backend
  database : Option DatabaseSettings
  seedFile : Option PathName
  rules : PathRules
  deriving DecidableEq, Repr

namespace Settings

def modelPath (settings : Settings) : PathName :=
  settings.workFolder.join settings.modelFile

def policyPath (settings : Settings) : PathName :=
  settings.workFolder.join settings.policyFile

def readAddress (name text : String) : Except SettingsError Address :=
  match Address.ofText? text with
  | some address => .ok address
  | none => .error (.address name)

def readBackend (name text : String) : Except SettingsError Backend :=
  match Text.lowerAscii (Text.trim text) with
  | "memory" => .ok .memory
  | "postgres" => .ok .postgres
  | "postgresql" => .ok .postgres
  | other => .error (.backend name other)

/-- The database is known by its address; without that variable there is none. -/
def databaseOf (environment : Environment) : Option DatabaseSettings :=
  (environment.value? "POLICYD_PG_URL").map fun url =>
    { url := url
      maxConnections := environment.count "POLICYD_PG_MAX_CONNECTIONS" Text.largest32 10
      acquireTimeout := environment.count "POLICYD_PG_ACQUIRE_TIMEOUT_MS" Text.largest64 5000 }

def ofEnvironment (environment : Environment) : Except SettingsError Settings := do
  let address (name default : String) := readAddress name (environment.value name default)
  let backend (name : String) := readBackend name (environment.value name "memory")
  let bind ← address "POLICYD_BIND" "0.0.0.0:8081"
  let metricsBind ← address "POLICYD_METRICS_BIND" "0.0.0.0:9090"
  let storage ← backend "POLICYD_STORAGE"
  let cache ← backend "POLICYD_CACHE"
  return {
    bind := bind
    metricsBind := metricsBind
    enabled := environment.flag "POLICYD_ENABLED" true
    workFolder := environment.value "POLICYD_WORK_DIR" "data"
    modelFile := environment.value "POLICYD_MODEL_FILE" "rbac_model.conf"
    policyFile := environment.value "POLICYD_POLICY_FILE" "gen_rbac_policy.csv"
    loadWorkers := environment.count "POLICYD_LOAD_WORKERS" Text.largest64 2
    queueDepth := environment.count "POLICYD_QUEUE_DEPTH" Text.largest64 64
    reloadInterval := environment.count "POLICYD_RELOAD_INTERVAL_MS" Text.largest64 3000
    signalScope := environment.value "POLICYD_SIGNAL_NAMESPACE" "role"
    signalKey := environment.value "POLICYD_SIGNAL_KEY" "sync:casbin"
    storage := storage
    cache := cache
    database := databaseOf environment
    seedFile := environment.value? "POLICYD_SEED_FILE"
    rules := ⟨environment.list "POLICYD_ALLOWED_PATH_PREFIXES",
      environment.list "POLICYD_SKIPPED_PATH_PREFIXES"⟩ }

def usesDatabase (settings : Settings) : Bool :=
  settings.storage == .postgres || settings.cache == .postgres

def hasDatabaseUrl (settings : Settings) : Bool :=
  match settings.database with
  | some database => Text.trim database.url != ""
  | none => false

/-- Whoever keeps something in the database has to say where it is. -/
def checked (settings : Settings) : Except SettingsError Settings :=
  if settings.usesDatabase && !settings.hasDatabaseUrl then .error .noDatabase
  else .ok settings

end Settings

end RoleGrants
