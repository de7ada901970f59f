import Mathlib.Data.List.DropRight
import RoleGrants.Proofs.Files.Paths
import RoleGrants.Proofs.Policy.Callers
import RoleGrants.Startup

/-! # Prefixes that are in force

The beginnings of paths come from a variable or from the file that the environment
names, and the file comes first (`read_rules`).  Of a variable every blank goes and
nothing empty stays (`of_mem_list`).  A list of the file is taken as it is written,
and an empty text in it begins every path
(`accepted_prefix_is_firm_or_written_so`). -/

set_option autoImplicit false

namespace RoleGrants

namespace Text

/-- There is something in the text, and no blank at its ends. -/
def IsFirm (text : String) : Prop :=
  text ≠ "" ∧ trim text = text

instance (text : String) : Decidable (IsFirm text) :=
  inferInstanceAs (Decidable (text ≠ "" ∧ trim text = text))

theorem trimEndChars_eq (characters : List Char) :
    trimEndChars characters = characters.rdropWhile isBlank :=
  rfl

theorem dropWhile_trimEndChars {characters : List Char}
    (front : characters.dropWhile isBlank = characters) :
    (trimEndChars characters).dropWhile isBlank = trimEndChars characters := by
  obtain ⟨taken, whole⟩ := List.rdropWhile_prefix isBlank (l := characters)
  rw [← trimEndChars_eq] at whole
  cases kept : trimEndChars characters with
  | nil => rfl
  | cons first rest =>
      rw [kept] at whole
      rw [← whole, List.cons_append, List.dropWhile_cons] at front
      rw [List.dropWhile_cons]
      split at front
      next blank =>
        have shorter := (List.dropWhile_sublist isBlank (l := rest ++ taken)).length_le
        rw [front] at shorter
        simp only [List.length_cons] at shorter
        omega
      next firm => rw [if_neg firm]

theorem trimChars_trimChars (characters : List Char) :
    trimChars (trimChars characters) = trimChars characters := by
  have front : (characters.dropWhile isBlank).dropWhile isBlank = characters.dropWhile isBlank :=
    List.dropWhile_idempotent isBlank characters
  rw [trimChars, trimChars, dropWhile_trimEndChars front, trimEndChars_eq, trimEndChars_eq,
    List.rdropWhile_idempotent]

theorem trim_trim (text : String) : trim (trim text) = trim text := by
  rw [trim, trim, String.toList_ofList, trimChars_trimChars]

theorem startsWith_nil (text : String) : startsWith text "" = true :=
  rfl

theorem eq_of_startsWith_nil {start : String} (begins : startsWith "" start = true) :
    start = "" := by
  have nothing : start.toList = [] := by
    simpa [startsWith] using begins
  exact String.toList_eq_nil_iff.mp nothing

end Text

namespace Environment

theorem of_mem_items {text item : String} (member : item ∈ items text) : Text.IsFirm item := by
  obtain ⟨source, nonempty⟩ := List.mem_filter.mp member
  obtain ⟨piece, -, rfl⟩ := List.mem_map.mp source
  exact ⟨by simpa using nonempty, Text.trim_trim piece⟩

theorem of_mem_list {environment : Environment} {name item : String}
    (member : item ∈ environment.list name) : Text.IsFirm item := by
  rw [list] at member
  cases given : environment.value? name with
  | none => simp [given] at member
  | some text =>
      rw [given] at member
      exact of_mem_items member

end Environment

namespace Settings

def overrides (environment : Environment) (files : Files) : Overrides :=
  let text := (environment.value? "POLICYD_CONFIG").bind fun path => (files.readText path).toOption
  (text.bind Overrides.ofYaml?).getD {}

theorem checked_eq_ok_iff {settings accepted : Settings} :
    settings.checked = .ok accepted ↔
      accepted = settings ∧ (settings.usesDatabase = true → settings.hasDatabaseUrl = true) := by
  unfold checked
  split
  next missing =>
    obtain ⟨uses, unknown⟩ := Bool.and_eq_true_iff.mp missing
    simp_all
  next complete =>
    have known : settings.usesDatabase = true → settings.hasDatabaseUrl = true := by
      simpa using complete
    rw [Except.ok.injEq, and_iff_left known, eq_comm]

theorem of_read {environment : Environment} {files : Files} {settings : Settings}
    (accepted : read environment files = .ok settings) :
    ∃ present, ofEnvironment environment = .ok present ∧
      (overrides environment files).apply present = .ok settings ∧
      (settings.usesDatabase = true → settings.hasDatabaseUrl = true) := by
  obtain ⟨present, given, accepted⟩ := bind_eq_ok accepted
  refine ⟨present, given, ?_⟩
  rw [overrides]
  split at accepted
  next unnamed =>
    obtain ⟨rfl, complete⟩ := checked_eq_ok_iff.mp accepted
    rw [unnamed]
    exact ⟨rfl, complete⟩
  next path named =>
    split at accepted
    next unreadable => cases accepted
    next text readable =>
      obtain ⟨joined, overridden, accepted⟩ := bind_eq_ok accepted
      obtain ⟨rfl, complete⟩ := checked_eq_ok_iff.mp accepted
      rw [withYaml] at overridden
      split at overridden
      next given parsed =>
        refine ⟨?_, complete⟩
        rw [named]
        simpa [readable, parsed, Except.toOption] using overridden
      next unparsable => cases overridden

theorem rules_ofEnvironment {environment : Environment} {settings : Settings}
    (given : ofEnvironment environment = .ok settings) :
    settings.rules =
      ⟨environment.list "POLICYD_ALLOWED_PATH_PREFIXES",
        environment.list "POLICYD_SKIPPED_PATH_PREFIXES"⟩ := by
  obtain ⟨_, _, given⟩ := bind_eq_ok given
  obtain ⟨_, _, given⟩ := bind_eq_ok given
  obtain ⟨_, _, given⟩ := bind_eq_ok given
  obtain ⟨_, _, given⟩ := bind_eq_ok given
  rw [← Except.ok.inj given]

theorem rules_apply {overrides : Overrides} {present settings : Settings}
    (given : overrides.apply present = .ok settings) :
    settings.rules =
      ⟨overrides.allowed.getD present.rules.allowed,
        overrides.skipped.getD present.rules.skipped⟩ := by
  obtain ⟨_, _, given⟩ := bind_eq_ok given
  obtain ⟨_, _, given⟩ := bind_eq_ok given
  obtain ⟨_, _, given⟩ := bind_eq_ok given
  obtain ⟨_, _, given⟩ := bind_eq_ok given
  rw [← Except.ok.inj given]

/-- Each of the two lists comes from the file, if the file has it, and else from its
variable. -/
theorem read_rules {environment : Environment} {files : Files} {settings : Settings}
    (accepted : read environment files = .ok settings) :
    settings.rules =
      ⟨(overrides environment files).allowed.getD
          (environment.list "POLICYD_ALLOWED_PATH_PREFIXES"),
        (overrides environment files).skipped.getD
          (environment.list "POLICYD_SKIPPED_PATH_PREFIXES")⟩ := by
  obtain ⟨present, given, joined, -⟩ := of_read accepted
  rw [rules_apply joined, rules_ofEnvironment given]

end Settings

namespace Authorizer

theorem decide_eq_skipped_iff (authorizer : Authorizer) (current : Option Generation)
    (request : Request) :
    authorizer.decide current request = .decided .skipped ↔
      authorizer.enabled = false ∨ authorizer.rules.bypasses request.path = true := by
  unfold Authorizer.decide
  split
  next skipped => simpa using skipped
  next checked =>
    obtain ⟨enabled, kept⟩ : authorizer.enabled = true ∧
        authorizer.rules.bypasses request.path = false := by
      simpa using checked
    rw [enabled, kept]
    cases current with
    | none => simp
    | some generation =>
        simpa using weighSubjects_ne_skipped generation.engine request.path request.method
          request.subjects

end Authorizer

theorem PathRules.bypasses_iff {rules : PathRules} (everywhere : rules.allowed = [])
    (path : String) :
    rules.bypasses path = true ↔
      ∃ start ∈ rules.skipped, Text.startsWith path start = true := by
  rw [PathRules.bypasses, everywhere]
  simp

/-- A text in force is firm, unless the file gives a list in which it stands so: such a list
is taken exactly as it is written.  While every path is checked but those under the skipped
beginnings, nothing at all is checked exactly if that list of the file has an empty text. -/
theorem accepted_prefix_is_firm_or_written_so {environment : Environment} {files : Files}
    {settings : Settings} (accepted : Settings.read environment files = .ok settings)
    (store : Store) (served : Files) (clock : Clock) :
    let given := Settings.overrides environment files
    let authorizer := (Service.ofSettings settings store served clock).authorizer
    (∀ start ∈ settings.rules.allowed,
        Text.IsFirm start ∨ ∃ starts, given.allowed = some starts ∧ start ∈ starts) ∧
      (∀ start ∈ settings.rules.skipped,
        Text.IsFirm start ∨ ∃ starts, given.skipped = some starts ∧ start ∈ starts) ∧
      (∀ starts, given.allowed = some starts → settings.rules.allowed = starts) ∧
      (∀ starts, given.skipped = some starts → settings.rules.skipped = starts) ∧
      (settings.enabled = true → settings.rules.allowed = [] →
        (∀ current request, authorizer.decide current request = .decided .skipped ↔
            ∃ start ∈ settings.rules.skipped,
              Text.startsWith request.path start = true) ∧
          ((∀ current request, authorizer.decide current request = .decided .skipped) ↔
            ∃ starts, given.skipped = some starts ∧ "" ∈ starts)) := by
  intro given authorizer
  have rules := Settings.read_rules accepted
  have allowed : settings.rules.allowed =
      given.allowed.getD (environment.list "POLICYD_ALLOWED_PATH_PREFIXES") := by
    rw [rules]
  have skipped : settings.rules.skipped =
      given.skipped.getD (environment.list "POLICYD_SKIPPED_PATH_PREFIXES") := by
    rw [rules]
  have written : ∀ {listed : Option (List String)} {name start : String},
      start ∈ listed.getD (environment.list name) →
        Text.IsFirm start ∨ ∃ starts, listed = some starts ∧ start ∈ starts := by
    intro listed name start member
    cases listed with
    | none => exact .inl (Environment.of_mem_list member)
    | some starts => exact .inr ⟨starts, rfl, member⟩
  refine ⟨fun start member => written (allowed ▸ member),
    fun start member => written (skipped ▸ member),
    fun starts present => by rw [allowed, present, Option.getD_some],
    fun starts present => by rw [skipped, present, Option.getD_some],
    fun enabled everywhere => ?_⟩
  have passes : ∀ current request, authorizer.decide current request = .decided .skipped ↔
      ∃ start ∈ settings.rules.skipped, Text.startsWith request.path start = true := by
    intro current request
    rw [Authorizer.decide_eq_skipped_iff]
    exact (or_iff_right (by simp [authorizer, Service.ofSettings, enabled])).trans
      (PathRules.bypasses_iff everywhere request.path)
  refine ⟨passes, fun all => ?_, fun ⟨starts, present, member⟩ current request => ?_⟩
  · -- a request whose path is empty begins with no other text than the empty one
    obtain ⟨start, member, begins⟩ := (passes none ⟨[], "", ""⟩).mp (all none ⟨[], "", ""⟩)
    rw [Text.eq_of_startsWith_nil begins] at member
    rcases written (skipped ▸ member) with firm | source
    · exact absurd rfl firm.1
    · exact source
  · refine (passes current request).mpr ⟨"", ?_, Text.startsWith_nil request.path⟩
    rw [skipped, present]
    exact member

def Settings.standard (rules : PathRules) : Settings where
  bind := ⟨.bytes 0 0 0 0, 8081⟩
  metricsBind := ⟨.bytes 0 0 0 0, 9090⟩
  enabled := true
  workFolder := "data"
  modelFile := "rbac_model.conf"
  policyFile := "gen_rbac_policy.csv"
  loadWorkers := 2
  queueDepth := 64
  reloadInterval := 3000
  signalScope := "role"
  signalKey := "sync:casbin"
  storage := .memory
  cache := .memory
  database := none
  seedFile := none
  rules := rules

/-- Of a variable with blanks in it two firm beginnings are left, and other paths are
checked. -/
theorem variable_gives_firm_prefixes :
    let environment := [("POLICYD_SKIPPED_PATH_PREFIXES", " /health, ,/metrics ")]
    let settings := Settings.standard ⟨[], ["/health", "/metrics"]⟩
    let authorizer := (Service.ofSettings settings Store.empty {} {}).authorizer
    Settings.read environment {} = .ok settings ∧
      (∀ start ∈ settings.rules.skipped, Text.IsFirm start) ∧
      ¬∀ current request, authorizer.decide current request = .decided .skipped := by
  intro environment settings authorizer
  have accepted : Settings.read environment {} = .ok settings := by decide +kernel
  obtain ⟨_, skipped, _, _, whole⟩ :=
    accepted_prefix_is_firm_or_written_so accepted Store.empty {} {}
  have unnamed : Settings.overrides environment {} = {} := rfl
  refine ⟨accepted, fun start member => ?_, fun all => ?_⟩
  · rcases skipped start member with firm | ⟨starts, present, -⟩
    · exact firm
    · rw [unnamed] at present
      cases present
  · obtain ⟨starts, present, -⟩ := (whole rfl rfl).2.mp all
    rw [unnamed] at present
    cases present

/-- An empty text in the file's list is accepted, and with it every request is passed over
although enforcement is on. -/
theorem empty_prefix_in_the_file_skips_every_path :
    let environment := [("POLICYD_CONFIG", "/settings")]
    let files := ({} : Files).put (Place.root.child "settings")
      (.file "skipped_path_prefixes: [\"\"]\n" false)
    let settings := Settings.standard ⟨[], [""]⟩
    let authorizer := (Service.ofSettings settings Store.empty files {}).authorizer
    Settings.read environment files = .ok settings ∧ settings.enabled = true ∧
      ¬(∀ start ∈ settings.rules.skipped, Text.IsFirm start) ∧
      ∀ current request, authorizer.decide current request = .decided .skipped := by
  intro environment files settings authorizer
  refine ⟨by decide +kernel, rfl, by decide, fun current request => ?_⟩
  rw [Authorizer.decide_eq_skipped_iff]
  exact .inr ((PathRules.bypasses_iff rfl request.path).mpr
    ⟨"", List.mem_singleton_self "", Text.startsWith_nil request.path⟩)

end RoleGrants
