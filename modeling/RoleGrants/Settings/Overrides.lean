import RoleGrants.Files.Tree
import RoleGrants.Settings.Basic
import RoleGrants.Yaml.Reading

/-! # Settings in a file

A file may give any of the settings again, and what it gives comes before the
environment.  A count of zero gives nothing.  Settings of the database join
those that are there already, one by one. -/

set_option autoImplicit false

namespace RoleGrants

structure DatabaseOverrides where
  url : Option String := none
  maxConnections : Option Nat := none
  acquireTimeout : Option Nat := none
  deriving DecidableEq, Repr

structure Overrides where
  bind : Option String := none
  metricsBind : Option String := none
  enabled : Option Bool := none
  workFolder : Option PathName := none
  modelFile : Option PathName := none
  policyFile : Option PathName := none
  loadWorkers : Option Nat := none
  queueDepth : Option Nat := none
  reloadInterval : Option Nat := none
  signalScope : Option String := none
  signalKey : Option String := none
  storage : Option String := none
  cache : Option String := none
  database : Option DatabaseOverrides := none
  seedFile : Option PathName := none
  allowed : Option (List String) := none
  skipped : Option (List String) := none
  deriving DecidableEq, Repr

def optionalField {α β : Type} (read : Yaml.Node → Option β) (put : Option β → α → α) :
    Yaml.Node → α → Option α :=
  fun node record => (node.optional? read).map fun value => put value record

namespace DatabaseOverrides

def fields : Yaml.Fields DatabaseOverrides :=
  [("url", optionalField Yaml.Node.text? fun value given => { given with url := value }),
   ("max_connections", optionalField (Yaml.Node.count? Text.largest32)
      fun value given => { given with maxConnections := value }),
   ("acquire_timeout_ms", optionalField (Yaml.Node.count? Text.largest64)
      fun value given => { given with acquireTimeout := value })]

def ofNode? : Yaml.Node → Option DatabaseOverrides :=
  Yaml.readFields fields [] {}

end DatabaseOverrides

def positiveOr (given : Option Nat) (present : Nat) : Nat :=
  (given.filter fun count => 0 < count).getD present

def DatabaseOverrides.apply (given : DatabaseOverrides) (present : Option DatabaseSettings) :
    DatabaseSettings :=
  let present := present.getD {}
  { url := given.url.getD present.url
    maxConnections := positiveOr given.maxConnections present.maxConnections
    acquireTimeout := positiveOr given.acquireTimeout present.acquireTimeout }

namespace Overrides

def fields : Yaml.Fields Overrides :=
  let text (put : Option String → Overrides → Overrides) := optionalField Yaml.Node.text? put
  let count (put : Option Nat → Overrides → Overrides) :=
    optionalField (Yaml.Node.count? Text.largest64) put
  let texts (put : Option (List String) → Overrides → Overrides) :=
    optionalField (Yaml.Node.listOf? Yaml.Node.text?) put
  [("bind_addr", text fun value given => { given with bind := value }),
   ("metrics_bind", text fun value given => { given with metricsBind := value }),
   ("enabled", optionalField Yaml.Node.flag? fun value given => { given with enabled := value }),
   ("work_dir", text fun value given => { given with workFolder := value }),
   ("model_file", text fun value given => { given with modelFile := value }),
   ("policy_file", text fun value given => { given with policyFile := value }),
   ("load_workers", count fun value given => { given with loadWorkers := value }),
   ("queue_depth", count fun value given => { given with queueDepth := value }),
   ("reload_interval_ms", count fun value given => { given with reloadInterval := value }),
   ("signal_namespace", text fun value given => { given with signalScope := value }),
   ("signal_key", text fun value given => { given with signalKey := value }),
   ("storage", text fun value given => { given with storage := value }),
   ("cache", text fun value given => { given with cache := value }),
   ("postgres", optionalField DatabaseOverrides.ofNode?
      fun value given => { given with database := value }),
   ("seed_file", text fun value given => { given with seedFile := value }),
   ("allowed_path_prefixes", texts fun value given => { given with allowed := value }),
   ("skipped_path_prefixes", texts fun value given => { given with skipped := value })]

def ofYaml? (text : String) : Option Overrides :=
  (Yaml.Node.ofText? text).bind (Yaml.readFields fields [] {})

/-- What a text gives, read by a rule that may fail, or else what is there. -/
def readOr {α : Type} (read : String → Except SettingsError α) (given : Option String)
    (present : α) : Except SettingsError α :=
  match given with
  | some text => read text
  | none => .ok present

def apply (given : Overrides) (present : Settings) : Except SettingsError Settings := do
  let bind ← readOr (Settings.readAddress "bind_addr") given.bind present.bind
  let metricsBind ←
    readOr (Settings.readAddress "metrics_bind") given.metricsBind present.metricsBind
  let storage ← readOr (Settings.readBackend "storage") given.storage present.storage
  let cache ← readOr (Settings.readBackend "cache") given.cache present.cache
  return {
    bind := bind
    metricsBind := metricsBind
    enabled := given.enabled.getD present.enabled
    workFolder := given.workFolder.getD present.workFolder
    modelFile := given.modelFile.getD present.modelFile
    policyFile := given.policyFile.getD present.policyFile
    loadWorkers := positiveOr given.loadWorkers present.loadWorkers
    queueDepth := positiveOr given.queueDepth present.queueDepth
    reloadInterval := positiveOr given.reloadInterval present.reloadInterval
    signalScope := given.signalScope.getD present.signalScope
    signalKey := given.signalKey.getD present.signalKey
    storage := storage
    cache := cache
    database := match given.database with
      | some database => some (database.apply present.database)
      | none => present.database
    seedFile := given.seedFile <|> present.seedFile
    rules := ⟨given.allowed.getD present.rules.allowed, given.skipped.getD present.rules.skipped⟩ }

end Overrides

namespace Settings

/-- The settings with those of a file, if its text can be read. -/
def withYaml (settings : Settings) (text : String) : Except SettingsError Settings :=
  match Overrides.ofYaml? text with
  | some overrides => overrides.apply settings
  | none => .error .unparsable

def read (environment : Environment) (files : Files) : Except SettingsError Settings := do
  let settings ← ofEnvironment environment
  match environment.value? "POLICYD_CONFIG" with
  | none => settings.checked
  | some path =>
      match files.readText path with
      | .error cause => .error (.unreadable path cause)
      | .ok text => (← settings.withYaml text).checked

end Settings

end RoleGrants
