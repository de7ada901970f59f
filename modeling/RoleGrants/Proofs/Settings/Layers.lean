import RoleGrants.Proofs.Settings.Fields
import RoleGrants.Proofs.Settings.Prefixes

/-! # Settings layer by layer

A setting has its value from the file, or else from its variable, or else from the program
(`Setting.layered?`), and a count does so where the file and the variable give a positive one
(`Count.layered`).  All settings in force are of this kind (`Settings.AreLayered`), whichever
layer gives which of them.

The variables of the two counts of the database are looked at beside that of its url and not
otherwise (`Settings.besideUrl`).  Where the file is the first to name the database and gives
no count, one that the environment has is lost (`Count.IsLost`). -/

set_option autoImplicit false

namespace RoleGrants

open Yaml (given_of_readFields keeps_optionalField)

/-! ## Layers -/

structure Setting (α : Type) where
  field : String
  name : String
  ofNode? : Yaml.Node → Option α
  ofText? : String → Option α
  default : α

namespace Setting

variable {α : Type}

def present? (setting : Setting α) (environment : Environment) : Option α :=
  match environment.value? setting.name with
  | some text => setting.ofText? text
  | none => some setting.default

/-- The first layer that names the setting decides. -/
def layered? (setting : Setting α) (environment : Environment) (document : Yaml.Node) : Option α :=
  match document.given? setting.field with
  | some node => setting.ofNode? node
  | none => setting.present? environment

def parsed (read : String → Option α) (field name : String) (default : α) : Setting α where
  field := field
  name := name
  ofNode? node := node.text?.bind read
  ofText? := read
  default := default

def address (field name : String) (port : UInt16) : Setting Address :=
  parsed Address.ofText? field name ⟨.bytes 0 0 0 0, port⟩

def backend (field name : String) : Setting Backend :=
  parsed (fun text => (Settings.readBackend name text).toOption) field name .memory

def text (field name default : String) : Setting String where
  field := field
  name := name
  ofNode? := Yaml.Node.text?
  ofText? := some
  default := default

def path (field name : String) : Setting (Option PathName) :=
  parsed (fun text => some (some text)) field name none

def flag (field name : String) (default : Bool) : Setting Bool where
  field := field
  name := name
  ofNode? := Yaml.Node.flag?
  ofText? text := some (Environment.isYes text)
  default := default

def texts (field name : String) : Setting (List String) where
  field := field
  name := name
  ofNode? := Yaml.Node.listOf? Yaml.Node.text?
  ofText? text := some (Environment.items text)
  default := []

theorem present?_of_forall {setting : Setting α} (read : String → α)
    (reads : ∀ text, setting.ofText? text = some (read text)) (environment : Environment) :
    setting.present? environment =
      some (((environment.value? setting.name).map read).getD setting.default) := by
  unfold present?
  cases environment.value? setting.name with
  | none => rfl
  | some text => exact reads text

theorem present?_text (field name default : String) (environment : Environment) :
    (text field name default).present? environment = some (environment.value name default) := by
  rw [present?_of_forall id fun _ => rfl, Option.map_id_apply]
  rfl

theorem present?_path (field name : String) (environment : Environment) :
    (path field name).present? environment = some (environment.value? name) := by
  rw [present?_of_forall some fun _ => rfl]
  change some (((environment.value? name).map some).getD none) = _
  cases environment.value? name with
  | none => rfl
  | some text => rfl

theorem layered?_eq {setting : Setting α} {environment : Environment} {document : Yaml.Node}
    {given : Option α} {present : α} (gives : document.Gives setting.field setting.ofNode? given)
    (known : setting.present? environment = some present) :
    setting.layered? environment document = some (given.getD present) := by
  unfold layered?
  cases gives with
  | unnamed absent =>
      rw [absent]
      exact known
  | named found written =>
      rw [found]
      exact written

section Parsed

variable {read : String → α} {parse : String → Option α} {rule : String → Except SettingsError α}
  {field name : String} {default present value : α} {environment : Environment}

theorem present?_parsed {standard : String} (written : parse standard = some default)
    (parses : ∀ text value, rule text = .ok value → parse text = some value)
    (known : rule (environment.value name standard) = .ok value) :
    (parsed parse field name default).present? environment = some value := by
  have read := parses _ _ known
  change (match environment.value? name with
    | some text => parse text
    | none => some default) = some value
  change parse ((environment.value? name).getD standard) = some value at read
  cases set : environment.value? name with
  | none =>
      rw [set] at read
      exact written.symm.trans read
  | some text =>
      rw [set] at read
      exact read

theorem layered?_parsed {document : Yaml.Node} {given : Option String}
    (parses : ∀ text value, rule text = .ok value → parse text = some value)
    (gives : document.Gives field Yaml.Node.text? given)
    (known : (parsed parse field name default).present? environment = some present)
    (joined : Overrides.readOr rule given present = .ok value) :
    (parsed parse field name default).layered? environment document = some value := by
  cases gives with
  | unnamed absent =>
      cases joined
      exact layered?_eq (.unnamed absent) known
  | @named node text found written =>
      have parsed : node.text?.bind parse = some value := by
        rw [written]
        exact parses text value joined
      exact layered?_eq (.named found parsed) known

end Parsed

end Setting

structure Count where
  field : String
  name : String
  limit : Nat
  default : Nat

namespace Count

def ofDocument (count : Count) (document : Yaml.Node) : Option Nat :=
  ((document.given? count.field).bind (Yaml.Node.count? count.limit)).filter
    fun number => 0 < number

def ofEnvironment (count : Count) (environment : Environment) : Option Nat :=
  (environment.value? count.name).bind (Environment.positive? count.limit)

/-- The first layer that gives a positive number decides. -/
def layered (count : Count) (environment : Environment) (document : Yaml.Node) : Nat :=
  (count.ofDocument document <|> count.ofEnvironment environment).getD count.default

theorem positiveOr_eq_layered {count : Count} {environment : Environment} {document : Yaml.Node}
    {given : Option Nat} {present : Nat}
    (gives : document.Gives count.field (Yaml.Node.count? count.limit) given)
    (known : present = (count.ofEnvironment environment).getD count.default) :
    positiveOr given present = count.layered environment document := by
  unfold positiveOr layered ofDocument
  rw [gives.bind_eq, known]
  cases given.filter fun number => 0 < number with
  | none => rfl
  | some number => rfl

end Count

/-! ## The settings of the program -/

def Settings.IsDocument (environment : Environment) (files : Files) (document : Yaml.Node) : Prop :=
  match environment.value? "POLICYD_CONFIG" with
  | some path => ∃ text, files.readText path = .ok text ∧ Yaml.Node.ofText? text = some document
  | none => document = .blank

def Settings.databaseIn (document : Yaml.Node) : Yaml.Node :=
  (document.given? "postgres").getD .blank

def Count.connections : Count :=
  ⟨"max_connections", "POLICYD_PG_MAX_CONNECTIONS", Text.largest32, 10⟩

def Count.timeout : Count :=
  ⟨"acquire_timeout_ms", "POLICYD_PG_ACQUIRE_TIMEOUT_MS", Text.largest64, 5000⟩

def Settings.besideUrl (environment : Environment) : Environment :=
  if (environment.value? "POLICYD_PG_URL").isSome then environment else []

structure DatabaseSettings.AreLayered (database : DatabaseSettings) (environment : Environment)
    (document : Yaml.Node) : Prop where
  url : (Setting.text "url" "POLICYD_PG_URL" "").layered? environment document = some database.url
  maxConnections : database.maxConnections =
    Count.connections.layered (Settings.besideUrl environment) document
  acquireTimeout : database.acquireTimeout =
    Count.timeout.layered (Settings.besideUrl environment) document

structure Settings.AreLayered (settings : Settings) (environment : Environment)
    (document : Yaml.Node) : Prop where
  bind : (Setting.address "bind_addr" "POLICYD_BIND" 8081).layered? environment document =
    some settings.bind
  metricsBind : (Setting.address "metrics_bind" "POLICYD_METRICS_BIND" 9090).layered? environment
    document = some settings.metricsBind
  enabled : (Setting.flag "enabled" "POLICYD_ENABLED" true).layered? environment document =
    some settings.enabled
  workFolder : (Setting.text "work_dir" "POLICYD_WORK_DIR" "data").layered? environment document =
    some settings.workFolder
  modelFile : (Setting.text "model_file" "POLICYD_MODEL_FILE" "rbac_model.conf").layered?
    environment document = some settings.modelFile
  policyFile : (Setting.text "policy_file" "POLICYD_POLICY_FILE" "gen_rbac_policy.csv").layered?
    environment document = some settings.policyFile
  loadWorkers : settings.loadWorkers =
    (Count.mk "load_workers" "POLICYD_LOAD_WORKERS" Text.largest64 2).layered environment document
  queueDepth : settings.queueDepth =
    (Count.mk "queue_depth" "POLICYD_QUEUE_DEPTH" Text.largest64 64).layered environment document
  reloadInterval : settings.reloadInterval =
    (Count.mk "reload_interval_ms" "POLICYD_RELOAD_INTERVAL_MS" Text.largest64 3000).layered
      environment document
  signalScope : (Setting.text "signal_namespace" "POLICYD_SIGNAL_NAMESPACE" "role").layered?
    environment document = some settings.signalScope
  signalKey : (Setting.text "signal_key" "POLICYD_SIGNAL_KEY" "sync:casbin").layered?
    environment document = some settings.signalKey
  storage : (Setting.backend "storage" "POLICYD_STORAGE").layered? environment document =
    some settings.storage
  cache : (Setting.backend "cache" "POLICYD_CACHE").layered? environment document =
    some settings.cache
  located : settings.database.isSome ↔
    (environment.value? "POLICYD_PG_URL").isSome ∨ (document.given? "postgres").isSome
  database : ∀ database, settings.database = some database →
    database.AreLayered environment (databaseIn document)
  seedFile : (Setting.path "seed_file" "POLICYD_SEED_FILE").layered? environment document =
    some settings.seedFile
  allowed : (Setting.texts "allowed_path_prefixes" "POLICYD_ALLOWED_PATH_PREFIXES").layered?
    environment document = some settings.rules.allowed
  skipped : (Setting.texts "skipped_path_prefixes" "POLICYD_SKIPPED_PATH_PREFIXES").layered?
    environment document = some settings.rules.skipped

/-! ## What the file gives -/

structure DatabaseOverrides.AreOf (given : DatabaseOverrides) (document : Yaml.Node) : Prop where
  url : document.Gives "url" Yaml.Node.text? given.url
  maxConnections :
    document.Gives "max_connections" (Yaml.Node.count? Text.largest32) given.maxConnections
  acquireTimeout :
    document.Gives "acquire_timeout_ms" (Yaml.Node.count? Text.largest64) given.acquireTimeout

structure Overrides.AreOf (given : Overrides) (document : Yaml.Node) : Prop where
  bind : document.Gives "bind_addr" Yaml.Node.text? given.bind
  metricsBind : document.Gives "metrics_bind" Yaml.Node.text? given.metricsBind
  enabled : document.Gives "enabled" Yaml.Node.flag? given.enabled
  workFolder : document.Gives "work_dir" Yaml.Node.text? given.workFolder
  modelFile : document.Gives "model_file" Yaml.Node.text? given.modelFile
  policyFile : document.Gives "policy_file" Yaml.Node.text? given.policyFile
  loadWorkers : document.Gives "load_workers" (Yaml.Node.count? Text.largest64) given.loadWorkers
  queueDepth : document.Gives "queue_depth" (Yaml.Node.count? Text.largest64) given.queueDepth
  reloadInterval :
    document.Gives "reload_interval_ms" (Yaml.Node.count? Text.largest64) given.reloadInterval
  signalScope : document.Gives "signal_namespace" Yaml.Node.text? given.signalScope
  signalKey : document.Gives "signal_key" Yaml.Node.text? given.signalKey
  storage : document.Gives "storage" Yaml.Node.text? given.storage
  cache : document.Gives "cache" Yaml.Node.text? given.cache
  database : document.Gives "postgres" DatabaseOverrides.ofNode? given.database
  seedFile : document.Gives "seed_file" Yaml.Node.text? given.seedFile
  allowed : document.Gives "allowed_path_prefixes" (Yaml.Node.listOf? Yaml.Node.text?) given.allowed
  skipped : document.Gives "skipped_path_prefixes" (Yaml.Node.listOf? Yaml.Node.text?) given.skipped

theorem DatabaseOverrides.areOf_of_ofNode? {document : Yaml.Node} {given : DatabaseOverrides}
    (read : ofNode? document = some given) : given.AreOf document := by
  constructor
  all_goals
    refine given_of_readFields rfl (fun _ _ => rfl) ?_ rfl read
    simp only [fields, List.forall_mem_cons]
    simp [keeps_optionalField]

theorem Overrides.areOf_of_readFields {document : Yaml.Node} {given : Overrides}
    (read : Yaml.readFields fields [] {} document = some given) : given.AreOf document := by
  constructor
  all_goals
    refine given_of_readFields rfl (fun _ _ => rfl) ?_ rfl read
    simp only [fields, List.forall_mem_cons]
    simp [keeps_optionalField]

theorem DatabaseOverrides.areOf_blank : ({} : DatabaseOverrides).AreOf .blank := by
  constructor <;> exact .unnamed rfl

namespace Settings

variable {environment : Environment} {files : Files} {settings : Settings} {document : Yaml.Node}

theorem exists_document (accepted : read environment files = .ok settings) :
    ∃ document, IsDocument environment files document ∧
      (overrides environment files).AreOf document := by
  obtain ⟨present, -, accepted⟩ := bind_eq_ok accepted
  unfold IsDocument overrides
  split at accepted
  next unnamed =>
    rw [unnamed]
    exact ⟨.blank, rfl, Overrides.areOf_of_readFields rfl⟩
  next path named =>
    split at accepted
    next unreadable => cases accepted
    next text readable =>
      obtain ⟨joined, overridden, -⟩ := bind_eq_ok accepted
      rw [withYaml] at overridden
      split at overridden
      next given parsed =>
        obtain ⟨document, written, fields⟩ := Option.bind_eq_some_iff.mp parsed
        rw [named]
        refine ⟨document, ⟨text, readable, written⟩, ?_⟩
        simpa [readable, parsed, Except.toOption] using Overrides.areOf_of_readFields fields
      next unparsable => cases overridden

/-! ## What is in force -/

theorem ofText?_of_readAddress (name text : String) (address : Address)
    (read : readAddress name text = .ok address) : Address.ofText? text = some address := by
  unfold readAddress at read
  split at read
  next found known =>
    cases read
    exact known
  next unknown => cases read

theorem toOption_readBackend (name other text : String) (backend : Backend)
    (read : readBackend name text = .ok backend) :
    (readBackend other text).toOption = some backend := by
  unfold readBackend at read ⊢
  split at read
  all_goals cases read
  all_goals rfl

theorem areOf_databaseIn {given : Option DatabaseOverrides}
    (gives : document.Gives "postgres" DatabaseOverrides.ofNode? given) :
    (given.getD {}).AreOf (databaseIn document) := by
  unfold databaseIn
  cases gives with
  | unnamed absent =>
      rw [absent]
      exact DatabaseOverrides.areOf_blank
  | named found written =>
      rw [found]
      exact DatabaseOverrides.areOf_of_ofNode? written

theorem areLayered_apply {given : DatabaseOverrides} (are : given.AreOf document) :
    (given.apply (databaseOf environment)).AreLayered environment document := by
  have url : (Setting.text "url" "POLICYD_PG_URL" "").present? environment =
      some ((databaseOf environment).getD {}).url := by
    unfold Setting.present? databaseOf Setting.text
    cases environment.value? "POLICYD_PG_URL" with
    | none => rfl
    | some url => rfl
  refine ⟨Setting.layered?_eq are.url url, Count.positiveOr_eq_layered are.maxConnections ?_,
    Count.positiveOr_eq_layered are.acquireTimeout ?_⟩
  all_goals
    unfold databaseOf besideUrl
    cases environment.value? "POLICYD_PG_URL" with
    | none => rfl
    | some url => rfl

theorem database_ofEnvironment (given : ofEnvironment environment = .ok settings) :
    settings.database = databaseOf environment := by
  obtain ⟨_, _, given⟩ := bind_eq_ok given
  obtain ⟨_, _, given⟩ := bind_eq_ok given
  obtain ⟨_, _, given⟩ := bind_eq_ok given
  obtain ⟨_, _, given⟩ := bind_eq_ok given
  rw [← Except.ok.inj given]

theorem database_apply {overrides : Overrides} {present : Settings}
    (joined : overrides.apply present = .ok settings) :
    settings.database =
      if overrides.database.isSome ∨ present.database.isSome then
        some ((overrides.database.getD {}).apply present.database) else none := by
  obtain ⟨_, _, joined⟩ := bind_eq_ok joined
  obtain ⟨_, _, joined⟩ := bind_eq_ok joined
  obtain ⟨_, _, joined⟩ := bind_eq_ok joined
  obtain ⟨_, _, joined⟩ := bind_eq_ok joined
  rw [← Except.ok.inj joined]
  cases overrides.database with
  | some given => rfl
  | none =>
      cases present.database with
      | some database => rfl
      | none => rfl

section Joined

variable {overrides : Overrides} {present : Settings}

theorem isSome_database (given : ofEnvironment environment = .ok present)
    (joined : overrides.apply present = .ok settings) (are : overrides.AreOf document) :
    settings.database.isSome ↔
      (environment.value? "POLICYD_PG_URL").isSome ∨ (document.given? "postgres").isSome := by
  rw [database_apply joined, database_ofEnvironment given, ← are.database.isSome_iff]
  split
  next known => simpa [databaseOf, or_comm] using known
  next nothing => simpa [databaseOf, or_comm] using nothing

theorem areLayered_database (given : ofEnvironment environment = .ok present)
    (joined : overrides.apply present = .ok settings) (are : overrides.AreOf document)
    (database : DatabaseSettings) (known : settings.database = some database) :
    database.AreLayered environment (databaseIn document) := by
  rw [database_apply joined, database_ofEnvironment given] at known
  split at known
  next layers =>
    cases known
    exact areLayered_apply (areOf_databaseIn are.database)
  next nothing => cases known

theorem areLayered_of_joined (given : ofEnvironment environment = .ok present)
    (joined : overrides.apply present = .ok settings) (are : overrides.AreOf document) :
    settings.AreLayered environment document := by
  have located := isSome_database given joined are
  have database := areLayered_database given joined are
  -- Four texts are read by rules that may fail, in each layer; what they gave is kept by name.
  obtain ⟨bind, readBind, given⟩ := bind_eq_ok given
  obtain ⟨metricsBind, readMetricsBind, given⟩ := bind_eq_ok given
  obtain ⟨storage, readStorage, given⟩ := bind_eq_ok given
  obtain ⟨cache, readCache, given⟩ := bind_eq_ok given
  cases given
  obtain ⟨_, joinedBind, joined⟩ := bind_eq_ok joined
  obtain ⟨_, joinedMetricsBind, joined⟩ := bind_eq_ok joined
  obtain ⟨_, joinedStorage, joined⟩ := bind_eq_ok joined
  obtain ⟨_, joinedCache, joined⟩ := bind_eq_ok joined
  cases joined
  constructor
  · exact Setting.layered?_parsed (ofText?_of_readAddress "bind_addr") are.bind
      (Setting.present?_parsed (by decide) (ofText?_of_readAddress _) readBind) joinedBind
  · exact Setting.layered?_parsed (ofText?_of_readAddress "metrics_bind") are.metricsBind
      (Setting.present?_parsed (by decide) (ofText?_of_readAddress _) readMetricsBind)
      joinedMetricsBind
  · exact Setting.layered?_eq are.enabled (Setting.present?_of_forall _ (fun _ => rfl) environment)
  · exact Setting.layered?_eq are.workFolder (Setting.present?_text _ _ _ environment)
  · exact Setting.layered?_eq are.modelFile (Setting.present?_text _ _ _ environment)
  · exact Setting.layered?_eq are.policyFile (Setting.present?_text _ _ _ environment)
  · exact Count.positiveOr_eq_layered are.loadWorkers rfl
  · exact Count.positiveOr_eq_layered are.queueDepth rfl
  · exact Count.positiveOr_eq_layered are.reloadInterval rfl
  · exact Setting.layered?_eq are.signalScope (Setting.present?_text _ _ _ environment)
  · exact Setting.layered?_eq are.signalKey (Setting.present?_text _ _ _ environment)
  · exact Setting.layered?_parsed (toOption_readBackend "storage" _) are.storage
      (Setting.present?_parsed (by decide) (toOption_readBackend _ _) readStorage) joinedStorage
  · exact Setting.layered?_parsed (toOption_readBackend "cache" _) are.cache
      (Setting.present?_parsed (by decide) (toOption_readBackend _ _) readCache) joinedCache
  · exact located
  · exact database
  · have kept : ∀ (text : String) (value : Option PathName),
        (.ok (some text) : Except SettingsError _) = .ok value → some (some text) = some value := by
      rintro text value ⟨⟩
      rfl
    refine Setting.layered?_parsed kept are.seedFile (Setting.present?_path _ _ environment) ?_
    cases overrides.seedFile with
    | none => rfl
    | some path => rfl
  · exact Setting.layered?_eq are.allowed (Setting.present?_of_forall _ (fun _ => rfl) environment)
  · exact Setting.layered?_eq are.skipped (Setting.present?_of_forall _ (fun _ => rfl) environment)

end Joined
end Settings

/-! ## Counts that are lost -/

/-- The variable gives a count that differs from the program's, and the program's is in force: the
file gives none, and there is no variable for the url. -/
def Count.IsLost (count : Count) (environment : Environment) (document : Yaml.Node) : Prop :=
  environment.value? "POLICYD_PG_URL" = none ∧ count.ofDocument document = none ∧
    ∃ number, count.ofEnvironment environment = some number ∧ number ≠ count.default

theorem Count.layered_besideUrl_iff (count : Count) (environment : Environment)
    (document : Yaml.Node) :
    count.layered (Settings.besideUrl environment) document = count.layered environment document ↔
      ¬ count.IsLost environment document := by
  unfold Settings.besideUrl IsLost
  cases environment.value? "POLICYD_PG_URL" with
  | some url => simp
  | none =>
      have nothing : count.ofEnvironment [] = none := rfl
      simp only [Option.isSome_none, Bool.false_eq_true, if_false, layered, nothing, true_and]
      cases count.ofDocument document with
      | some number => simp
      | none =>
          cases count.ofEnvironment environment with
          | none => simp
          | some number => simp [eq_comm]

/-- Of accepted settings each has its value from the first layer that gives one: the file that the
environment names, the environment, the program.  Only the two counts of the database may not, and
that happens exactly if the variable of one is set beside no url, and the file, which has to be the
first to name the database then, gives no count. -/
theorem settings_are_layered_but_for_lost_counts {environment : Environment} {files : Files}
    {settings : Settings} (accepted : Settings.read environment files = .ok settings) :
    ∃ document, Settings.IsDocument environment files document ∧
      settings.AreLayered environment document ∧
      ∀ database, settings.database = some database →
        let given := Settings.databaseIn document
        (database.maxConnections = Count.connections.layered environment given ↔
            ¬ Count.connections.IsLost environment given) ∧
          (database.acquireTimeout = Count.timeout.layered environment given ↔
            ¬ Count.timeout.IsLost environment given) := by
  obtain ⟨document, isDocument, are⟩ := Settings.exists_document accepted
  obtain ⟨present, given, joined, -⟩ := Settings.of_read accepted
  have layered := Settings.areLayered_of_joined given joined are
  refine ⟨document, isDocument, layered, ?_⟩
  intro database known given
  have own := layered.database database known
  rw [own.maxConnections, own.acquireTimeout]
  exact ⟨Count.layered_besideUrl_iff _ environment given,
    Count.layered_besideUrl_iff _ environment given⟩

/-- The url and one count are given twice, and the other count beside the url: the file comes
first, one by one. -/
theorem file_joins_the_database_of_the_environment :
    let environment := [("POLICYD_PG_URL", "postgres://db/old"),
      ("POLICYD_PG_MAX_CONNECTIONS", "4"), ("POLICYD_PG_ACQUIRE_TIMEOUT_MS", "7"),
      ("POLICYD_CONFIG", "/settings")]
    let files := ({} : Files).put (Place.root.child "settings")
      (.file "postgres:\n  url: postgres://db/roles\n  max_connections: 3\n" false)
    let database : DatabaseSettings := ⟨"postgres://db/roles", 3, 7⟩
    let settings := { Settings.standard ⟨[], []⟩ with database := some database }
    Settings.read environment files = .ok settings ∧
      ∃ document, Settings.IsDocument environment files document ∧
        settings.AreLayered environment document ∧
        Count.connections.layered environment (Settings.databaseIn document) = 3 ∧
        Count.timeout.layered environment (Settings.databaseIn document) = 7 := by
  intro environment files database settings
  have accepted : Settings.read environment files = .ok settings := by decide +kernel
  obtain ⟨document, isDocument, layered, counts⟩ :=
    settings_are_layered_but_for_lost_counts accepted
  obtain ⟨connections, timeout⟩ := counts database rfl
  have kept : ∀ count : Count, ¬ count.IsLost environment (Settings.databaseIn document) := by
    rintro count ⟨unset, -⟩
    cases unset
  exact ⟨accepted, document, isDocument, layered, (connections.mpr (kept _)).symm,
    (timeout.mpr (kept _)).symm⟩

/-- The file names the database and no count: the count of the environment is not in force. -/
theorem count_without_a_url_is_lost :
    let environment := [("POLICYD_PG_MAX_CONNECTIONS", "50"), ("POLICYD_CONFIG", "/settings")]
    let files := ({} : Files).put (Place.root.child "settings")
      (.file "postgres:\n  url: postgres://db/roles\n" false)
    let database : DatabaseSettings := ⟨"postgres://db/roles", 10, 5000⟩
    let settings := { Settings.standard ⟨[], []⟩ with database := some database }
    Settings.read environment files = .ok settings ∧
      ∃ document, Settings.IsDocument environment files document ∧
        Count.connections.layered environment (Settings.databaseIn document) = 50 ∧
        database.maxConnections ≠ 50 := by
  intro environment files database settings
  have written : (Yaml.Node.ofText? "postgres:\n  url: postgres://db/roles\n").map
      (fun document => Count.connections.layered environment (Settings.databaseIn document)) =
        some 50 := by
    decide +kernel
  obtain ⟨document, parsed, given⟩ := Option.map_eq_some_iff.mp written
  have readable : files.readText "/settings" =
      .ok "postgres:\n  url: postgres://db/roles\n" := by
    decide +kernel
  exact ⟨by decide +kernel, document, ⟨_, readable, parsed⟩, given, by decide⟩

end RoleGrants
