import RoleGrants.Proofs.Files.Growing
import RoleGrants.Proofs.Policy.Backups

/-! # The backup when publishing succeeds

With the folder of the policy made, the path of the backup leads into it, so that the
backup which is not found is not there (`target_backupPath`).  It is removed and the file
of the policy copied in its place; a copy fails only where there is no file.  So a
publishing that succeeds leaves as the backup what the policy was (`leaves_of_published`). -/

set_option autoImplicit false

namespace RoleGrants

namespace Files

/-- The file at a place, with its mark. -/
def file? (files : Files) (place : Place) : Option (String × Bool) :=
  match files.at? place with
  | some (.file text readOnly) => some (text, readOnly)
  | _ => none

variable {files after : Files} {place : Place}

theorem file?_of_at? {text : String} {readOnly : Bool}
    (found : files.at? place = some (.file text readOnly)) :
    files.file? place = some (text, readOnly) := by
  rw [file?, found]

theorem file?_of_same (same : after.at? place = files.at? place) :
    after.file? place = files.file? place := by
  rw [file?, file?, same]

theorem file?_of_none (nothing : files.at? place = none) : files.file? place = none := by
  rw [file?, nothing]

end Files

namespace Publish

open Files

variable {before files after : Files} {now : Publish} {path : PathName} {place staged : Place}

theorem follow_parent (isFolder : files.status (folderOf path) = .ok .folder) :
    ∃ folder, files.follow (files.start (path.parent?.getD "")) (steps (path.parent?.getD "")) =
      .ok folder ∧ files.at? folder = some .folder := by
  rw [folderOf] at isFolder
  have working : files.status "." = .ok .folder → files.at? files.working = some .folder := by
    intro here
    obtain ⟨led, _⟩ := status_eq_ok_iff.mp here
    obtain ⟨_, led, _⟩ := locate_eq_ok_iff.mp led
    obtain ⟨_, entered, _⟩ := bind_eq_ok ((follow_cons files files.working .here []).symm.trans led)
    exact at?_of_enter entered
  cases own : path.parent? with
  | none =>
      rw [own] at isFolder
      exact ⟨files.working, rfl, working isFolder⟩
  | some parent =>
      rw [own] at isFolder
      simp only at isFolder
      split at isFolder
      next empty => exact ⟨files.working, by rw [Option.getD_some, empty]; rfl, working isFolder⟩
      · obtain ⟨led, found⟩ := status_eq_ok_iff.mp isFolder
        exact ⟨_, (locate_eq_ok_iff.mp led).2.1, found⟩

/-- The path of the backup leads to the folder of the policy, or the system does not take it. -/
theorem target_backupPath {last : String} (named : path.fileName? = some last)
    (isFolder : files.status (folderOf path) = .ok .folder) :
    (∃ folder, files.target (backupPath path) =
        .ok (folder, some (.name (last ++ ".bak")))) ∨
      ∃ refusal, refusal ≠ .notFound ∧ files.target (backupPath path) = .error refusal := by
  obtain ⟨folder, led, found⟩ := follow_parent isFolder
  obtain ⟨pieces, absolute⟩ := steps_backupPath named
  have start : files.start (backupPath path) = files.start (path.parent?.getD "") := by
    rw [Files.start, Files.start, absolute]
  have some_ : backupPath path ≠ "" := by
    intro empty
    have ending := getLast?_backupPath path
    rw [empty] at ending
    cases ending
  rw [target]
  cases fine : checked (backupPath path) with
  | error refusal =>
      refine .inr ⟨refusal, ?_, rfl⟩
      rintro rfl
      rw [checked, if_neg some_] at fine
      split at fine
      · cases fine
      · split at fine
        · cases fine
        · cases fine
  | ok same =>
      cases checked_eq fine
      simp only [bind, Except.bind, start, pieces, List.dropLast_concat, led, enter_of_at? found,
        List.getLast?_concat]
      split
      · exact .inl ⟨folder, rfl⟩
      · exact .inr ⟨.nameTooLong, by simp, rfl⟩

theorem endsInSlash_backupPath (path : PathName) : endsInSlash (backupPath path) = false := by
  rw [endsInSlash, getLast?_backupPath]
  decide

/-- No backup is there, and one can be put there. -/
structure Cleared (files : Files) (path : PathName) : Prop where
  nothing : files.at? (files.aim (backupPath path)) = none
  target : ∃ folder name, files.target (backupPath path) = .ok (folder, some (.name name))

theorem Cleared.locate (cleared : Cleared files path) :
    files.locate (backupPath path) = .ok (files.aim (backupPath path)) := by
  obtain ⟨folder, name, found⟩ := cleared.target
  refine locate_of_target found fun slash => ?_
  rw [endsInSlash_backupPath] at slash
  cases slash

theorem cleared_of_removed (removed : files.removeFile (backupPath path) = .ok after) :
    Cleared after path := by
  obtain ⟨folder, name, found⟩ := exists_target_of_removeFile removed
  obtain ⟨low, free, rfl⟩ := of_removeFile removed
  refine ⟨(at?_drop _ low _).trans (if_pos rfl), folder, name, ?_⟩
  exact target_of_folders (by rfl) (fun _ => folder_drop low free) found

theorem cleared_of_missed {last : String} (named : path.fileName? = some last)
    (isFolder : files.status (folderOf path) = .ok .folder)
    (missed : files.removeFile (backupPath path) = .error .notFound) : Cleared files path := by
  rcases target_backupPath named isFolder with ⟨folder, found⟩ | ⟨refusal, other, refused⟩
  · refine ⟨?_, folder, _, found⟩
    rw [removeFile, found] at missed
    simp only [bind, Except.bind, aim_of_target found] at missed
    split at missed
    next nothing => exact nothing
    · cases missed
    · split at missed
      · cases missed
      · cases missed
  · rw [removeFile, refused] at missed
    cases missed
    exact absurd rfl other

theorem exists_copy {text : String} {readOnly : Bool} (cleared : Cleared files path)
    (reached : files.status path = .ok (.file text readOnly)) :
    ∃ after, files.copyFile path (backupPath path) = .ok after := by
  obtain ⟨folder, name, found⟩ := cleared.target
  have nothing := cleared.nothing
  have own := aim_of_target found
  have low : files.aim (backupPath path) ≠ .root := own ▸ folder.child_ne_root name
  have written : files.writeText (backupPath path) text =
      .ok (files.put (files.aim (backupPath path)) (.file text false)) := by
    rw [writeText, found]
    simp only [bind, Except.bind, own, nothing, endsInSlash_backupPath]
    rfl
  have led : (files.put (files.aim (backupPath path)) (.file text false)).locate
      (backupPath path) = .ok (files.aim (backupPath path)) := by
    have free : files.at? (files.aim (backupPath path)) ≠ some .folder := by
      simp [nothing]
    exact locate_of_folders (by rfl) (fun _ => folder_put low free _) cleared.locate
  rw [copyFile, reached]
  simp only [bind, Except.bind, written, led]
  exact ⟨_, rfl⟩

/-! ## Stage by stage -/

structure Begun (files : Files) (path : PathName) (staged : Place) : Prop where
  folder : files.status (folderOf path) = .ok .folder
  file : ∃ text readOnly, files.at? staged = some (.file text readOnly)

structure Copied (before : Files) (path : PathName) (files : Files) : Prop where
  leads : files.locate (backupPath path) = .ok (files.aim (backupPath path))
  copy : (∃ text readOnly, before.at? (before.aim path) = some (.file text readOnly) ∧
      files.at? (files.aim (backupPath path)) = some (.file text readOnly)) ∨
    files.at? (files.aim (backupPath path)) = none ∧
      ∀ text readOnly, files.status path ≠ .ok (.file text readOnly)

structure Replaced (before : Files) (path : PathName) (files : Files) : Prop where
  working : files.working = before.working
  active : before.at? (before.aim path) ≠ some .folder
  backup : before.at? (before.aim (backupPath path)) ≠ some .folder
  copy : files.file? (before.aim (backupPath path)) = before.file? (before.aim path)
  leads : files.locate (backupPath path) = .ok (before.aim (backupPath path))

/-- How far the backup is at each stage. -/
def Rotates (before files : Files) (now : Publish) : Prop :=
  match now.stage with
  | .folders => True
  | .create => files.status (folderOf now.path) = .ok .folder
  | .write staged => Begun files now.path staged
  | .flush staged => Begun files now.path staged
  | .seal staged => Begun files now.path staged
  | .removeBackup staged => Begun files now.path staged
  | .copyBackup _ => ∀ last, now.path.fileName? = some last → Cleared files now.path
  | .replace _ => ∀ last, now.path.fileName? = some last → Copied before now.path files
  | .ended (.ok ()) => Replaced before now.path files
  | .ended (.error _) => True

/-- The backup can be removed, or there is none. -/
def canClear (files : Files) (now : Publish) : Bool :=
  match now.stage with
  | .removeBackup _ =>
      match files.removeFile (backupPath now.path) with
      | .ok _ => true
      | .error refusal => refusal = .notFound
  | _ => true

theorem Begun.put (begun : Begun files path staged) (low : staged ≠ .root) (text : String)
    (readOnly : Bool) : Begun (files.put staged (.file text readOnly)) path staged := by
  obtain ⟨folder, _, _, held⟩ := begun
  refine ⟨?_, text, readOnly, (at?_put _ low _ _).trans (if_pos rfl)⟩
  have free : files.at? staged ≠ some .folder := by
    simp [held]
  exact status_of_folders (by rfl) (fun _ => folder_put low free _) folder

theorem copied_of_uncopied {refusal : OsError} (cleared : Cleared files path)
    (refused : files.copyFile path (backupPath path) = .error refusal) :
    Copied before path files := by
  refine ⟨cleared.locate, .inr ⟨cleared.nothing, fun text readOnly reached => ?_⟩⟩
  obtain ⟨after, copied⟩ := exists_copy cleared reached
  rw [refused] at copied
  cases copied

theorem copied_of_copyFile (keeps : Keeps before path files) (cleared : Cleared files path)
    (copied : files.copyFile path (backupPath path) = .ok after) : Copied before path after := by
  obtain ⟨low, free, working, same⟩ := of_copyFile copied
  obtain ⟨text, readOnly, reached, copy⟩ := copy_of_copyFile copied
  have aims := aim_of_working working (backupPath path)
  have leads : after.locate (backupPath path) = .ok (files.aim (backupPath path)) := by
    refine locate_of_folders working (fun place isFolder => ?_) cleared.locate
    have away : place ≠ files.aim (backupPath path) := by
      rintro rfl
      exact free isFolder
    rw [same place away]
    exact isFolder
  rw [← aims] at leads copy
  exact ⟨leads, .inl ⟨text, readOnly, keeps.file reached, copy⟩⟩

theorem replaced_of_moveFile {text : String} (keeps : Keeps before path files)
    (own : Apart before path staged) (whole : files.at? staged = some (.file text true))
    (copied : Copied before path files) (moved : files.moveFile staged path = .ok after) :
    Replaced before path after := by
  obtain ⟨low, free, rfl, leads⟩ := of_moveFile whole moved
  obtain ⟨led, copy⟩ := copied
  rw [keeps.aim] at low free leads led copy ⊢
  have kept : ∀ place, files.at? place = some .folder →
      ((files.drop staged).put (before.aim path) (.file text true)).at? place = some .folder := by
    intro place isFolder
    have unused : files.at? staged ≠ some .folder := by
      simp [whole]
    refine folder_put low ?_ _ (folder_drop own.low unused isFolder)
    rw [at?_drop_of_ne own.low own.active.symm]
    exact free
  have backup : ((files.drop staged).put (before.aim path) (.file text true)).at?
      (before.aim (backupPath path)) = files.at? (before.aim (backupPath path)) := by
    rw [at?_put_of_ne low _ (aim_backupPath_ne before path),
      at?_drop_of_ne own.low own.backup.symm]
  have active : before.at? (before.aim path) ≠ some .folder := fun isFolder =>
    free (keeps.folders _ isFolder)
  refine ⟨keeps.working, active, ?_, ?_, locate_of_folders (by rfl) kept led⟩
  · intro isFolder
    have still := keeps.folders _ isFolder
    rcases copy with ⟨_, _, _, copy⟩ | ⟨nothing, _⟩
    · rw [copy] at still
      cases still
    · rw [nothing] at still
      cases still
  · rw [file?_of_same backup]
    rcases copy with ⟨text, readOnly, old, copy⟩ | ⟨nothing, unread⟩
    · rw [file?_of_at? old, file?_of_at? copy]
    · rw [file?_of_none nothing]
      -- the path leads there, but no file has been read
      have absent : files.at? (before.aim path) = none := by
        cases found : files.at? (before.aim path) with
        | none => rfl
        | some node =>
            have reached : files.status path = .ok node := by
              rw [status_eq_ok_iff, keeps.aim]
              exact ⟨leads files rfl fun _ isFolder => isFolder, found⟩
            cases node with
            | folder => exact absurd found free
            | file text readOnly => exact absurd reached (unread text readOnly)
      refine (file?_of_none ?_).symm
      rcases keeps.active with old | ⟨nothing, _⟩
      · exact old.symm.trans absent
      · exact nothing

theorem folderOf_ne_empty (path : PathName) : folderOf path ≠ "" := by
  rw [folderOf]
  split
  · decide
  · split
    · decide
    next some_ => exact some_

theorem rotates_advance (clear : canClear files now = true) (named : NamedApart before now.path)
    (safe : Safe before files now) (rotates : Rotates before files now) :
    Rotates before (now.advance files).1 (now.advance files).2 := by
  rw [advance]
  cases here : now.stage with
  | folders =>
      simp only
      split
      next made done => exact status_of_createFolders (folderOf_ne_empty _) done
      · trivial
  | create =>
      rw [Safe, here] at safe
      rw [Rotates, here] at rotates
      simp only
      split
      next staged found =>
        obtain ⟨unused, apart, apartBackup⟩ := of_stagedPlace named safe found
        have low := (safe.apart unused apart apartBackup).low
        have free : files.at? staged ≠ some .folder := by
          simp [unused]
        refine ⟨status_of_folders (by rfl) (fun _ => folder_put low free _) rotates, "", false, ?_⟩
        exact (at?_put _ low _ _).trans (if_pos rfl)
      · trivial
  | write staged =>
      rw [Rotates, here] at rotates
      have low := (safe.apart (by rw [here]; rfl)).low
      exact rotates.put low _ _
  | flush staged =>
      rw [Rotates, here] at rotates
      exact rotates
  | «seal» staged =>
      rw [Rotates, here] at rotates
      have low := (safe.apart (by rw [here]; rfl)).low
      exact rotates.put low _ _
  | removeBackup staged =>
      rw [Rotates, here] at rotates
      simp only
      split
      next after gone => exact fun _ _ => cleared_of_removed gone
      next missed => exact fun _ named => cleared_of_missed named rotates.folder missed
      next refusal other refused =>
        rw [canClear, here] at clear
        -- A backup that can be cleared is refused for one reason only, that there is none.
        simp only [refused, decide_eq_true_eq] at clear
        exact absurd clear other
  | copyBackup staged =>
      rw [Rotates, here] at rotates
      have keeps := safe.keeps (by simp [here])
      simp only
      split
      next after made => exact fun last named => copied_of_copyFile keeps (rotates last named) made
      next refusal refused => exact fun last named => copied_of_uncopied (rotates last named) refused
  | replace staged =>
      rw [Rotates, here] at rotates
      rw [Safe, here] at safe
      obtain ⟨keeps, own, whole⟩ := safe
      simp only
      split
      next after moved =>
        obtain ⟨folder, last, found⟩ := exists_target_of_moveFile whole moved
        have ending := fileName?_of_getLast? (of_target found).2.1
        exact replaced_of_moveFile keeps own whole (rotates last ending) moved
      · trivial
  | ended answer =>
      rw [Rotates, here] at rotates
      rw [Rotates, here]
      exact rotates

theorem rooted_advance (safe : Safe before files now) (rotates : Rotates before files now)
    (rooted : files.IsRooted) : (now.advance files).1.IsRooted := by
  have rewritten : ∀ {staged text readOnly}, Begun files now.path staged →
      Apart before now.path staged → (files.put staged (.file text readOnly)).IsRooted := by
    intro staged text readOnly begun apart
    obtain ⟨_, _, _, held⟩ := begun
    exact rooted.put_over apart.low (by simp [held]) (by simp [held])
  rw [advance]
  cases here : now.stage with
  | folders =>
      have made := rooted.createFolders (folderOf now.path)
      simp only
      split
      next after done =>
        rw [done] at made
        exact made
      next after refusal done =>
        rw [done] at made
        exact made
  | create =>
      simp only
      split
      next staged found =>
        obtain ⟨place, _, found⟩ := bind_eq_ok found
        obtain ⟨_, entered, found⟩ := bind_eq_ok found
        cases found
        obtain ⟨_, _, unused⟩ := files.exists_freshName place
        exact rooted.put_child (at?_of_enter entered) (plain_freshName files place).1
          (.inr (by simp [unused]))
      · exact rooted
  | write staged =>
      rw [Rotates, here] at rotates
      exact rewritten rotates (safe.apart (by rw [here]; rfl))
  | flush staged => exact rooted
  | «seal» staged =>
      rw [Rotates, here] at rotates
      exact rewritten rotates (safe.apart (by rw [here]; rfl))
  | removeBackup staged =>
      simp only
      split
      next after gone => exact rooted.removeFile gone
      · exact rooted
      · exact rooted
  | copyBackup staged =>
      simp only
      split
      next after made => exact rooted.copyFile made
      · exact rooted
  | replace staged =>
      rw [Safe, here] at safe
      obtain ⟨_, own, whole⟩ := safe
      simp only
      split
      next after moved => exact rooted.moveFile own.low whole moved
      · exact rooted.drop own.low (by simp [whole])
  | ended answer => exact rooted

/-! ## To the end -/

structure Proper (before files : Files) (now : Publish) : Prop where
  named : NamedApart before now.path
  safe : Safe before files now
  spares : Spares before files now
  rotates : Rotates before files now
  rooted : before.IsRooted → files.IsRooted

theorem Proper.begun (named : NamedApart files path) (text : String) :
    Proper files files { path := path, text := text } :=
  ⟨named, Keeps.refl files path, Spares.refl files path text, trivial, id⟩

theorem Proper.advance (proper : Proper before files now) (clear : canClear files now = true) :
    Proper before (now.advance files).1 (now.advance files).2 := by
  obtain ⟨named, safe, spares, rotates, rooted⟩ := proper
  have step := runs_advance named safe
  refine ⟨?_, (safe_runs step safe).1, spares_runs step safe spares,
    rotates_advance clear named safe rotates, fun first => ?_⟩
  · rw [advance_path]
    exact named
  · exact rooted_advance safe rotates (rooted first)

theorem Proper.runFor {fuel : Nat} (proper : Proper before files now)
    (clear : ∀ earlier < fuel,
      canClear (Publish.runFor earlier files now).1 (Publish.runFor earlier files now).2 = true) :
    Proper before (Publish.runFor fuel files now).1 (Publish.runFor fuel files now).2 := by
  induction fuel generalizing files now with
  | zero => exact proper
  | succ fuel ih =>
      refine ih (proper.advance (clear 0 (Nat.succ_pos fuel))) fun earlier less => ?_
      exact clear (earlier + 1) (Nat.succ_lt_succ less)

structure Leaves (before : Files) (path : PathName) (text : String) (after : Files) : Prop where
  active : after.at? (before.aim path) = some (.file text true)
  leads : after.locate path = .ok (before.aim path)
  replaced : Replaced before path after
  held : ∀ place, place ≠ before.aim path → place ≠ before.aim (backupPath path) →
    before.at? place ≠ none → after.at? place = before.at? place
  rooted : before.IsRooted → after.IsRooted

/-- The backup can be removed, when the publishing comes to it, or there is none. -/
def ClearsBackup (files : Files) (begun : Publish) : Prop :=
  ∀ earlier < distance begun.stage,
    canClear (runFor earlier files begun).1 (runFor earlier files begun).2 = true

instance (files : Files) (begun : Publish) : Decidable (ClearsBackup files begun) :=
  inferInstanceAs (Decidable (∀ earlier < distance begun.stage,
    canClear (runFor earlier files begun).1 (runFor earlier files begun).2 = true))

end Publish

/-- A publishing that succeeds leaves as the backup what the policy was, and nothing else is
changed. -/
theorem leaves_of_published {files : Files} {path : PathName} {compiled : Compiled}
    (named : Publish.NamedApart files path)
    (clears : Publish.ClearsBackup files { path := path, text := compiled.render })
    (some_ : compiled.isEmpty = false) (done : (publish files path compiled).2 = .ok ()) :
    Publish.Leaves files path compiled.render (publish files path compiled).1 := by
  let begun : Publish := { path := path, text := compiled.render }
  have proper : Publish.Proper files (begun.final files).1 (begun.final files).2 :=
    (Publish.Proper.begun named compiled.render).runFor clears
  have faithful : Publish.Faithful files begun := trivial
  obtain ⟨_, own, text⟩ := Publish.faithful_final faithful
  rw [publish_eq some_] at done ⊢
  have ended := Publish.stage_of_answer done
  dsimp only
  generalize begun.final files = last at proper own text ended ⊢
  obtain ⟨_, safe, spares, rotates, rooted⟩ := proper
  have held := spares.held
  rw [Publish.Safe, ended] at safe
  rw [Publish.Rotates, ended] at rotates
  rw [own] at safe rotates held
  obtain ⟨active, leads⟩ := safe
  rw [text] at active
  exact ⟨active, leads, rotates, fun place other away => held place away fun _ => other, rooted⟩

end RoleGrants
