import RoleGrants.Proofs.Policy.Rotating

/-! # Histories of published policies

Policies are published one after another, and models are made in between
(`History`).  While all operations succeed, the policy is the last that was published
and its backup the one before it (`histories_keep_the_last_two_policies`).  A model that
is there stays, unless a path comes to it by a step up through a folder that has to be
made first. -/

set_option autoImplicit false

namespace RoleGrants

inductive FileCall where
  | publish (compiled : Compiled)
  | ensureModel (model : PathName) (text : String)

namespace FileCall

def text? : FileCall → Option String
  | .publish compiled => if compiled.isEmpty then none else some compiled.render
  | .ensureModel _ _ => none

/-- A call of which no operation fails; the model is neither the policy nor its backup. -/
inductive Succeeds (path : PathName) (files : Files) : FileCall → Files → Prop
  | empty (compiled : Compiled) (none_ : compiled.isEmpty = true) :
      Succeeds path files (.publish compiled) (RoleGrants.publish files path compiled).1
  | published (compiled : Compiled) (some_ : compiled.isEmpty = false)
      (clears : Publish.ClearsBackup files { path := path, text := compiled.render })
      (done : (RoleGrants.publish files path compiled).2 = .ok ()) :
      Succeeds path files (.publish compiled) (RoleGrants.publish files path compiled).1
  | ensured (model : PathName) (text : String) (written : Bool)
      (apart : files.aim model ≠ files.aim path)
      (apartBackup : files.aim model ≠ files.aim (backupPath path))
      (done : (RoleGrants.ensureModel files model text).2 = .ok written) :
      Succeeds path files (.ensureModel model text) (RoleGrants.ensureModel files model text).1

end FileCall

inductive History (path : PathName) (files : Files) : List FileCall → Files → Prop
  | begun : History path files [] files
  | call {calls : List FileCall} {now after : Files} (last : FileCall)
      (history : History path files calls now) (step : last.Succeeds path now after) :
      History path files (calls ++ [last]) after

/-- The texts that have been published, one after another. -/
def publishedTexts (calls : List FileCall) : List String :=
  calls.filterMap FileCall.text?

theorem publishedTexts_concat_of_none {last : FileCall} (silent : last.text? = none)
    (calls : List FileCall) : publishedTexts (calls ++ [last]) = publishedTexts calls := by
  simp [publishedTexts, silent]

theorem publishedTexts_concat_of_some {last : FileCall} {text : String}
    (told : last.text? = some text) (calls : List FileCall) :
    publishedTexts (calls ++ [last]) = publishedTexts calls ++ [text] := by
  simp [publishedTexts, told]

/-- The last of the texts as a published file, or else what was before. -/
def lastFile (before : Option (String × Bool)) (texts : List String) : Option (String × Bool) :=
  (texts.getLast?.map fun text => (text, true)).or before

@[simp] theorem lastFile_concat (before : Option (String × Bool)) (texts : List String)
    (text : String) : lastFile before (texts ++ [text]) = some (text, true) := by
  simp [lastFile]

/-! ## Making a model -/

section Model

variable {files after : Files} {model : PathName} {text : String} {written : Bool}

theorem ensureModel_cases (done : (ensureModel files model text).2 = .ok written) :
    (ensureModel files model text).1 = files ∨
      files.status model = .error .notFound ∧ ∃ made, Files.Extends files made ∧
        (files.IsRooted → made.IsRooted) ∧
          made.writeText model text = .ok (ensureModel files model text).1 := by
  rw [ensureModel] at done ⊢
  cases reached : files.status model with
  | ok node => exact .inl rfl
  | error refusal =>
      cases refusal with
      | notFound =>
          rw [reached] at done
          simp only at done ⊢
          generalize folders : (if model.parent?.getD "" = "" then (files, Except.ok ())
            else files.createFolders (model.parent?.getD "")) = result at done ⊢
          have grown : Files.Extends files result.1 ∧ (files.IsRooted → result.1.IsRooted) := by
            rw [← folders]
            split
            · exact ⟨.refl files, id⟩
            · exact ⟨Files.extends_createFolders files _, fun rooted => rooted.createFolders _⟩
          obtain ⟨made, _ | _⟩ := result
          · cases done
          · simp only at done ⊢
            split at done
            · cases done
            next after wrote => exact .inr ⟨trivial, made, grown.1, grown.2, wrote⟩
      | _ =>
          rw [reached] at done
          cases done

structure Ensures (files : Files) (model : PathName) (after : Files) : Prop where
  working : after.working = files.working
  folders : ∀ place, files.at? place = some .folder → after.at? place = some .folder
  elsewhere : ∀ place, place ≠ files.aim model → after.at? place = files.at? place ∨
    files.at? place = none ∧ after.at? place = some .folder
  rooted : files.IsRooted → after.IsRooted
  kept : files.IsRooted → .up ∉ Files.steps model → files.at? (files.aim model) ≠ none →
    after.at? (files.aim model) = files.at? (files.aim model)

theorem ensures_of_ensureModel (done : (ensureModel files model text).2 = .ok written) :
    Ensures files model (ensureModel files model text).1 := by
  rcases ensureModel_cases done with same | ⟨missed, made, more, still, wrote⟩
  · rw [same]
    exact ⟨rfl, fun _ => id, fun _ _ => .inl rfl, id, fun _ _ _ => rfl⟩
  · have whole : files.IsRooted → _ := fun rooted => (still rooted).writeText wrote
    have fine : Files.checked model = .ok model := by
      obtain ⟨_, found, _⟩ := bind_eq_ok wrote
      obtain ⟨_, fine, _⟩ := bind_eq_ok found
      cases Files.checked_eq fine
      exact fine
    generalize (ensureModel files model text).1 = after at wrote whole ⊢
    obtain ⟨low, free, mark, rfl⟩ := Files.of_writeText wrote
    rw [Files.aim_of_working more.working] at low free whole ⊢
    refine ⟨more.working, ?_, ?_, whole, ?_⟩
    · exact fun place isFolder => Files.folder_put low free _ (more.folders isFolder)
    · intro place away
      rw [Files.at?_put_of_ne low _ away]
      exact more.places place
    · exact fun rooted down held => absurd missed (rooted.status_ne_notFound down fine held)

theorem Ensures.file? (ensures : Ensures files model after) {place : Place}
    (away : place ≠ files.aim model) : after.file? place = files.file? place := by
  rcases ensures.elsewhere place away with same | ⟨nothing, isFolder⟩
  · exact Files.file?_of_same same
  · rw [Files.file?, Files.file?, nothing, isFolder]

theorem Ensures.held (ensures : Ensures files model after) {place : Place}
    (away : place ≠ files.aim model) (some_ : files.at? place ≠ none) :
    after.at? place = files.at? place :=
  (ensures.elsewhere place away).resolve_right fun new => some_ new.1

end Model

/-! ## Call by call -/

/-- No model is made at the place by a path with a step up. -/
def MadePlainly (files : Files) (calls : List FileCall) (place : Place) : Prop :=
  ∀ model text, .ensureModel model text ∈ calls → files.aim model = place →
    .up ∉ Files.steps model

theorem MadePlainly.of_concat {files : Files} {calls : List FileCall} {last : FileCall}
    {place : Place} (plain : MadePlainly files (calls ++ [last]) place) :
    MadePlainly files calls place :=
  fun model text member => plain model text (List.mem_append_left _ member)

structure Recorded (before : Files) (path : PathName) (calls : List FileCall) (after : Files) :
    Prop where
  working : after.working = before.working
  folders : ∀ place, before.at? place = some .folder → after.at? place = some .folder
  present : before.at? (before.aim path) ≠ none → after.at? (before.aim path) ≠ none
  rooted : before.IsRooted → after.IsRooted
  /-- The policy is the last that has been published. -/
  active : after.file? (before.aim path) =
    lastFile (before.file? (before.aim path)) (publishedTexts calls)
  /-- The backup is what the policy was before the last was published. -/
  backup : after.file? (before.aim (backupPath path)) =
    if publishedTexts calls = [] then before.file? (before.aim (backupPath path))
    else lastFile (before.file? (before.aim path)) (publishedTexts calls).dropLast
  leads : publishedTexts calls ≠ [] →
    after.locate path = .ok (before.aim path) ∧
      after.locate (backupPath path) = .ok (before.aim (backupPath path))
  /-- What is anywhere else stays. -/
  kept : before.IsRooted → ∀ place, place ≠ before.aim path →
    place ≠ before.aim (backupPath path) → MadePlainly before calls place →
      before.at? place ≠ none → after.at? place = before.at? place

namespace Recorded

variable {before now after : Files} {path : PathName} {calls : List FileCall}

theorem begun (files : Files) (path : PathName) : Recorded files path [] files := by
  refine ⟨rfl, fun _ => id, id, id, rfl, rfl, fun some_ => absurd rfl some_, ?_⟩
  exact fun _ _ _ _ _ _ => rfl

theorem idle (recorded : Recorded before path calls now) {last : FileCall}
    (silent : last.text? = none) : Recorded before path (calls ++ [last]) now := by
  obtain ⟨working, folders, present, rooted, active, backup, leads, kept⟩ := recorded
  have texts := publishedTexts_concat_of_none silent calls
  refine ⟨working, folders, present, rooted, ?_, ?_, ?_, ?_⟩
  · rw [texts]
    exact active
  · rw [texts]
    exact backup
  · rw [texts]
    exact leads
  · exact fun first place away other plain => kept first place away other plain.of_concat

theorem published (recorded : Recorded before path calls now) {compiled : Compiled}
    (some_ : compiled.isEmpty = false) (leaves : Publish.Leaves now path compiled.render after) :
    Recorded before path (calls ++ [.publish compiled]) after := by
  obtain ⟨working, folders, present, rooted, active, backup, leads, kept⟩ := recorded
  obtain ⟨written, led, replaced, held, still⟩ := leaves
  have aims := Files.aim_of_working working
  have told : (FileCall.publish compiled).text? = some compiled.render := by
    rw [FileCall.text?, some_]
    rfl
  have texts := publishedTexts_concat_of_some told calls
  obtain ⟨same, activeFree, backupFree, copy, ledBackup⟩ := replaced
  simp only [aims] at written led held activeFree backupFree copy ledBackup
  refine ⟨same.trans working, ?_, ?_, still ∘ rooted, ?_, ?_, ?_, ?_⟩
  · intro place isFolder
    have here := folders place isFolder
    rw [held place (by rintro rfl; exact activeFree here) (by rintro rfl; exact backupFree here)]
    · exact here
    · simp [here]
  · intro _
    simp [written]
  · rw [texts, lastFile_concat, Files.file?_of_at? written]
  · rw [texts, if_neg (by simp), List.dropLast_concat, copy, active]
  · exact fun _ => ⟨led, ledBackup⟩
  · intro first place away other plain some_
    have here := kept first place away other plain.of_concat some_
    rw [held place away other (by rw [here]; exact some_), here]

theorem ensured (recorded : Recorded before path calls now) {model : PathName} {text : String}
    (apart : now.aim model ≠ now.aim path) (apartBackup : now.aim model ≠ now.aim (backupPath path))
    (ensures : Ensures now model after) :
    Recorded before path (calls ++ [.ensureModel model text]) after := by
  obtain ⟨working, folders, present, rooted, active, backup, leads, kept⟩ := recorded
  have aims := Files.aim_of_working working
  have silent : (FileCall.ensureModel model text).text? = none := rfl
  have texts := publishedTexts_concat_of_none silent calls
  have locates : ∀ {other place}, now.locate other = .ok place → after.locate other = .ok place :=
    Files.locate_of_folders ensures.working ensures.folders
  rw [aims, aims] at apart apartBackup
  have away : before.aim path ≠ now.aim model := by
    rw [aims]
    exact apart.symm
  have awayBackup : before.aim (backupPath path) ≠ now.aim model := by
    rw [aims]
    exact apartBackup.symm
  refine ⟨ensures.working.trans working, ?_, ?_, ensures.rooted ∘ rooted, ?_, ?_, ?_, ?_⟩
  · exact fun place isFolder => ensures.folders place (folders place isFolder)
  · intro some_
    rw [ensures.held away (present some_)]
    exact present some_
  · rw [texts, ensures.file? away]
    exact active
  · rw [texts, ensures.file? awayBackup]
    exact backup
  · rw [texts]
    exact fun some_ => ⟨locates (leads some_).1, locates (leads some_).2⟩
  · intro first place other otherBackup plain some_
    have here := kept first place other otherBackup plain.of_concat some_
    have still : now.at? place ≠ none := by
      rw [here]
      exact some_
    by_cases own : place = now.aim model
    · have down := plain model text (by simp) (by rw [own, aims])
      rw [← here, own]
      exact ensures.kept (rooted first) down (own ▸ still)
    · rw [ensures.held own still]
      exact here

end Recorded

theorem Recorded.named {before now : Files} {path : PathName} {calls : List FileCall}
    (recorded : Recorded before path calls now) (named : Publish.NamedApart before path) :
    Publish.NamedApart now path := by
  rw [Publish.NamedApart, Files.aim_of_working recorded.working]
  exact named.imp recorded.present id

theorem recorded_of_history {files after : Files} {path : PathName} {calls : List FileCall}
    (named : Publish.NamedApart files path) (history : History path files calls after) :
    Recorded files path calls after := by
  induction history with
  | begun => exact .begun files path
  | call last history step ih =>
      cases step with
      | empty compiled none_ =>
          rw [publish, if_pos none_]
          exact ih.idle (if_pos none_)
      | published compiled some_ clears done =>
          exact ih.published some_ (leaves_of_published (ih.named named) clears some_ done)
      | ensured model text written apart apartBackup done =>
          exact ih.ensured apart apartBackup (ensures_of_ensureModel done)

/-- What another path reaches stays, where no model is made over it. -/
theorem Recorded.status {before after : Files} {path other : PathName} {calls : List FileCall}
    (recorded : Recorded before path calls after) (rooted : before.IsRooted)
    (apart : before.aim other ≠ before.aim path)
    (apartBackup : before.aim other ≠ before.aim (backupPath path))
    (plain : MadePlainly before calls (before.aim other)) {node : Node}
    (reached : before.status other = .ok node) : after.status other = .ok node := by
  rw [Files.status_eq_ok_iff] at reached ⊢
  rw [Files.aim_of_working recorded.working]
  obtain ⟨led, found⟩ := reached
  refine ⟨Files.locate_of_folders recorded.working recorded.folders led, ?_⟩
  rw [recorded.kept rooted _ apart apartBackup plain (by simp [found])]
  exact found

/-- An empty policy is refused and changes nothing, and a model that the path reaches is left.
While the operations succeed, the file of the policy is the last text that has been published,
marked as not to be written, and its backup what the file was before that; and from any point on
whatever another path reaches stays, unless a model is made at its place by a path with a step
up. -/
theorem histories_keep_the_last_two_policies (files : Files) (path : PathName)
    (named : Publish.NamedApart files path) :
    let active := files.aim path
    let backup := files.aim (backupPath path)
    (∀ now compiled, compiled.isEmpty = true →
        publish now path compiled = (now, .error .empty)) ∧
      (∀ now model text node, now.status model = .ok node →
        ensureModel now model text = (now, .ok false)) ∧
      ∀ calls now, History path files calls now →
        now.file? active = lastFile (files.file? active) (publishedTexts calls) ∧
          now.file? backup = (if publishedTexts calls = [] then files.file? backup
            else lastFile (files.file? active) (publishedTexts calls).dropLast) ∧
          (publishedTexts calls ≠ [] → ∀ node,
            (now.status path = .ok node ↔ now.at? active = some node) ∧
              (now.status (backupPath path) = .ok node ↔ now.at? backup = some node)) ∧
          ∀ further after, History path now further after → files.IsRooted →
            ∀ other, files.aim other ≠ active → files.aim other ≠ backup →
              MadePlainly files further (files.aim other) →
                ∀ node, now.status other = .ok node → after.status other = .ok node := by
  intro active backup
  refine ⟨?_, ?_, ?_⟩
  · intro now compiled none_
    rw [publish, if_pos none_]
  · intro now model text node reached
    rw [ensureModel, reached]
  · intro calls now history
    have recorded := recorded_of_history named history
    have aims := Files.aim_of_working recorded.working
    refine ⟨recorded.active, recorded.backup, ?_, ?_⟩
    · intro some_ node
      obtain ⟨led, ledBackup⟩ := recorded.leads some_
      rw [Files.status_eq_ok_iff, Files.status_eq_ok_iff, aims, aims]
      exact ⟨⟨And.right, fun found => ⟨led, found⟩⟩, And.right, fun found => ⟨ledBackup, found⟩⟩
    · intro further after later rooted other apart apartBackup plain node reached
      have beyond := recorded_of_history (recorded.named named) later
      have plainly : MadePlainly now further (now.aim other) := by
        intro model text member same
        rw [aims, aims] at same
        exact plain model text member same
      refine beyond.status (recorded.rooted rooted) ?_ ?_ plainly reached
      · rw [aims, aims]
        exact apart
      · rw [aims, aims]
        exact apartBackup

def ownModelFiles : Files :=
  olderFiles.put (Place.root.child "model.conf") (.file "own" false)

def latestPolicy : Compiled :=
  { lines := [⟨"editor", "/latest", "GET"⟩], roles := 1, resources := 1 }

/-- Two policies are published, with an empty one and a call for the model in between. -/
theorem latest_policy_and_the_one_before_are_kept :
    let path : PathName := "/policy.csv"
    let first := (publish ownModelFiles path newPolicy).1
    let second := (ensureModel first "/model.conf" "built in").1
    let third := (publish second path {}).1
    let fourth := (publish third path latestPolicy).1
    fourth.file? ⟨"/policy.csv"⟩ = some ("p, editor, /latest, GET\n", true) ∧
      fourth.file? ⟨"/policy.csv.bak"⟩ = some ("p, editor, /new, GET\n", true) ∧
      fourth.status "/model.conf" = .ok (.file "own" false) := by
  intro path first second third fourth
  have named : Publish.NamedApart ownModelFiles path := .inl (by decide)
  have rooted : ownModelFiles.IsRooted :=
    isRooted_olderFiles.put_child rfl (by decide) (.inr (by decide))
  have place : ownModelFiles.aim path = ⟨"/policy.csv"⟩ := by decide
  have backupPlace : ownModelFiles.aim (backupPath path) = ⟨"/policy.csv.bak"⟩ := by decide
  have opened : History path ownModelFiles [] ownModelFiles := .begun
  have one := opened.call (.publish newPolicy)
    (.published newPolicy rfl (by decide +kernel) (by decide +kernel))
  have two := one.call (.ensureModel "/model.conf" "built in")
    (.ensured _ _ false (by decide +kernel) (by decide +kernel) (by decide +kernel))
  have three := two.call (.publish {}) (.empty {} rfl)
  have history := three.call (.publish latestPolicy)
    (.published latestPolicy rfl (by decide +kernel) (by decide +kernel))
  obtain ⟨_, _, all⟩ := histories_keep_the_last_two_policies ownModelFiles path named
  obtain ⟨active, backup, _⟩ := all _ fourth history
  obtain ⟨_, _, _, kept⟩ := all [] ownModelFiles .begun
  rw [place] at active
  rw [backupPlace] at backup
  refine ⟨active.trans (by decide +kernel), backup.trans (by decide +kernel), ?_⟩
  refine kept _ fourth history rooted "/model.conf" (by decide) (by decide) ?_ _ rfl
  intro model text member _
  obtain ⟨rfl, _⟩ : model = "/model.conf" ∧ text = "built in" := by simpa using member
  decide

/-- The path of the model comes by a step up through a folder that is not there.  So nothing is
found, the folder is made, and the model is written over the one that was there. -/
theorem model_is_written_over_behind_a_new_folder :
    let path : PathName := "/policy.csv"
    let after := (ensureModel ownModelFiles "/conf/../model.conf" "built in").1
    History path ownModelFiles [.ensureModel "/conf/../model.conf" "built in"] after ∧
      ownModelFiles.status "/model.conf" = .ok (.file "own" false) ∧
      after.status "/model.conf" = .ok (.file "built in" false) := by
  intro path after
  have opened : History path ownModelFiles [] ownModelFiles := .begun
  have history := opened.call (.ensureModel "/conf/../model.conf" "built in")
    (.ensured _ _ true (by decide +kernel) (by decide +kernel) (by decide +kernel))
  refine ⟨history, rfl, ?_⟩
  decide +kernel

end RoleGrants
