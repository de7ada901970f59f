import RoleGrants.Proofs.Policy.Interrupted

/-! # The backup when publishing fails

What was there stays, but for the policy and its backup (`Spares`), and the backup stays
until it is rotated.  Behind that only the move onto the policy can fail, so a failure at
any operation before leaves the backup; a failure of the move comes too late
(`failing_keeps_the_backup_before_the_move`).  When nothing is broken off, the move fails
only where no file can be put at all. -/

set_option autoImplicit false

namespace RoleGrants

/-- The backup may have been touched. -/
@[simp] def PublishStage.mayHaveRotated : PublishStage → Bool
  | .copyBackup _ => true
  | .replace _ => true
  | .ended _ => true
  | _ => false

namespace Publish

/-- A place is as it was, or it is on the way and has been made a folder where nothing was. -/
def Grown (before : Files) (path : PathName) (files : Files) (place : Place) : Prop :=
  files.at? place = before.at? place ∨
    before.at? place = none ∧ files.at? place = some .folder ∧
      ∃ above : PathName, above.IsAbove path ∧ before.aim above = place

/-- The backup has been removed, and where the policy was a file a copy of it may have been
begun. -/
def Rotated (before : Files) (path : PathName) (files : Files) : Prop :=
  before.at? (before.aim (backupPath path)) ≠ some .folder ∧
    (files.at? (before.aim (backupPath path)) = none ∨
      (∃ text readOnly,
          files.at? (before.aim (backupPath path)) = some (.file text readOnly)) ∧
        ∃ text readOnly, before.at? (before.aim path) = some (.file text readOnly))

/-- What a publishing does not touch. -/
structure Spares (before files : Files) (now : Publish) : Prop where
  unused : ∀ staged, now.stage.staged? = some staged → before.at? staged = none
  held : ∀ place, place ≠ before.aim (backupPath now.path) →
    (now.stage = .ended (.ok ()) → place ≠ before.aim now.path) → before.at? place ≠ none →
      files.at? place = before.at? place
  backup : Grown before now.path files (before.aim (backupPath now.path)) ∨
    now.stage.mayHaveRotated = true ∧ Rotated before now.path files

variable {before files after : Files} {now next : Publish} {path : PathName} {place staged : Place}

theorem Grown.of_same (grown : Grown before path files place)
    (same : after.at? place = files.at? place) : Grown before path after place := by
  rw [Grown, same]
  exact grown

theorem Rotated.of_same (rotated : Rotated before path files)
    (same : after.at? (before.aim (backupPath path)) = files.at? (before.aim (backupPath path))) :
    Rotated before path after := by
  rw [Rotated, same]
  exact rotated

theorem Grown.folder {above : PathName} (grown : Grown before path files place)
    (working : files.working = before.working) (isAbove : above.IsAbove path)
    (made : files.makeFolder above = .ok after) : Grown before path after place := by
  obtain ⟨low, absent, rfl⟩ := Files.of_makeFolder made
  rw [Files.aim_of_working working] at low absent ⊢
  rw [Grown, Files.at?_put _ low]
  split
  next same =>
    refine .inr ⟨?_, rfl, above, isAbove, same.symm⟩
    rcases grown with old | ⟨nothing, _⟩
    · rw [← old, same]
      exact absent
    · exact nothing
  · exact grown

theorem Spares.refl (files : Files) (path : PathName) (text : String) :
    Spares files files { path := path, text := text } :=
  ⟨by simp [PublishStage.staged?], fun _ _ _ _ => rfl, .inl (.inl rfl)⟩

theorem going_of_staged (here : now.stage.staged? = some staged) :
    now.stage ≠ .ended (.ok ()) := by
  intro finished
  rw [finished] at here
  cases here

theorem going_of_mayFail (fails : now.stage.mayFail = true) : now.stage ≠ .ended (.ok ()) := by
  intro finished
  rw [finished] at fails
  cases fails

theorem same_or_unused (unused : before.at? staged = none) (apart : Apart before path staged)
    (same : ∀ place, place ≠ staged → after.at? place = files.at? place) (place : Place) :
    after.at? place = files.at? place ∨
      before.at? place = none ∧ place ≠ before.aim (backupPath path) := by
  by_cases own : place = staged
  · rw [own]
    exact .inr ⟨unused, apart.backup⟩
  · exact .inl (same place own)

namespace Spares

theorem grown (spares : Spares before files now) (early : now.stage.mayHaveRotated = false) :
    Grown before now.path files (before.aim (backupPath now.path)) := by
  refine spares.backup.resolve_right ?_
  rintro ⟨late, _⟩
  rw [early] at late
  cases late

theorem absent (spares : Spares before files now) (going : now.stage ≠ .ended (.ok ()))
    (unused : files.at? staged = none) (apart : staged ≠ before.aim (backupPath now.path)) :
    before.at? staged = none := by
  by_contra some_
  have held := spares.held staged apart (fun finished => absurd finished going) some_
  rw [held] at unused
  exact some_ unused

theorem onward (spares : Spares before files now) (own : next.path = now.path)
    (running : now.stage ≠ .ended (.ok ()))
    (unused : ∀ staged, next.stage.staged? = some staged → before.at? staged = none)
    (late : now.stage.mayHaveRotated = true → next.stage.mayHaveRotated = true)
    (same : ∀ place, after.at? place = files.at? place ∨
      before.at? place = none ∧ place ≠ before.aim (backupPath now.path)) :
    Spares before after next := by
  refine ⟨unused, ?_, ?_⟩
  · intro place away _ some_
    rw [own] at away
    have held := spares.held place away (fun finished => absurd finished running) some_
    rcases same place with stays | ⟨nothing, _⟩
    · exact stays.trans held
    · exact absurd nothing some_
  · have stays := (same (before.aim (backupPath now.path))).resolve_right fun other =>
      other.2 rfl
    rw [own]
    exact spares.backup.imp (fun grown => grown.of_same stays)
      fun rotating => ⟨late rotating.1, rotating.2.of_same stays⟩

theorem staging (spares : Spares before files now) (safe : Safe before files now)
    (here : now.stage.staged? = some staged) {stage : PublishStage}
    (further : stage.staged? = some staged)
    (late : now.stage.mayHaveRotated = true → stage.mayHaveRotated = true)
    (same : ∀ place, place ≠ staged → after.at? place = files.at? place) :
    Spares before after (now.atStage stage) := by
  have absent := spares.unused staged here
  refine spares.onward rfl (going_of_staged here) ?_ late
    (same_or_unused absent (safe.apart here) same)
  intro other found
  cases further.symm.trans found
  exact absent

theorem rotate (spares : Spares before files now) (here : now.stage.staged? = some staged)
    (own : next.path = now.path) (further : next.stage.staged? = some staged)
    (late : next.stage.mayHaveRotated = true)
    (same : ∀ other, other ≠ before.aim (backupPath now.path) → after.at? other = files.at? other)
    (rotated : Rotated before now.path after) : Spares before after next := by
  have running := going_of_staged here
  refine ⟨?_, ?_, ?_⟩
  · intro other found
    rw [further] at found
    cases found
    exact spares.unused staged here
  · intro place away _ some_
    rw [own] at away
    rw [same place away]
    exact spares.held place away (fun finished => absurd finished running) some_
  · rw [own]
    exact .inr ⟨late, rotated⟩

end Spares

theorem Keeps.file {text : String} {readOnly : Bool} (keeps : Keeps before path files)
    (reached : files.status path = .ok (.file text readOnly)) :
    before.at? (before.aim path) = some (.file text readOnly) := by
  rw [Files.status_eq_ok_iff, keeps.aim] at reached
  rcases keeps.active with old | ⟨_, isFolder, _⟩
  · exact old.symm.trans reached.2
  · rw [isFolder] at reached
    cases reached.2

theorem spares_happens (step : Happens files now after next) (safe : Safe before files now)
    (spares : Spares before files now) : Spares before after next := by
  cases step with
  | folder above after here isAbove made =>
      rw [Safe, here] at safe
      refine ⟨spares.unused, ?_, ?_⟩
      · intro place away running some_
        have held := spares.held place away running some_
        obtain ⟨low, absent, rfl⟩ := Files.of_makeFolder made
        rw [Files.at?_put _ low, if_neg, held]
        rintro rfl
        exact some_ (held.symm.trans absent)
      · exact .inl ((spares.grown (by simp [here])).folder safe.working isAbove made)
  | folders here =>
      exact spares.onward rfl (by simp [here]) (by simp [atStage, PublishStage.staged?])
        (by simp [here]) fun _ => .inl rfl
  | created staged here unused apart apartBackup =>
      rw [Safe, here] at safe
      have own := safe.apart unused apart apartBackup
      have absent := spares.absent (by simp [here]) unused own.backup
      refine spares.onward rfl (by simp [here]) ?_ (by simp [here])
        (same_or_unused absent own fun _ => Files.at?_put_of_ne own.low _)
      rintro _ ⟨⟩
      exact absent
  | writing staged part here =>
      have own : now.stage.staged? = some staged := by rw [here]; rfl
      exact spares.staging safe own own id fun _ => Files.at?_put_of_ne (safe.apart own).low _
  | written staged here =>
      have own : now.stage.staged? = some staged := by rw [here]; rfl
      exact spares.staging safe own rfl (by simp [here]) fun _ =>
        Files.at?_put_of_ne (safe.apart own).low _
  | flushed staged here =>
      exact spares.staging safe (by rw [here]; rfl) rfl (by simp [here]) fun _ _ => rfl
  | sealed staged here =>
      have own : now.stage.staged? = some staged := by rw [here]; rfl
      exact spares.staging safe own rfl (by simp [here]) fun _ =>
        Files.at?_put_of_ne (safe.apart own).low _
  | removed staged after here gone =>
      have keeps := safe.keeps (by simp [here])
      obtain ⟨low, free, rfl⟩ := Files.of_removeFile gone
      rw [keeps.aim] at low free ⊢
      refine spares.rotate (by rw [here]; rfl) rfl rfl rfl
        (fun _ => Files.at?_drop_of_ne low) ⟨fun isFolder => free (keeps.folders _ isFolder), ?_⟩
      exact .inl ((Files.at?_drop _ low _).trans (if_pos rfl))
  | absent staged here =>
      exact spares.staging safe (by rw [here]; rfl) rfl (by simp [here]) fun _ _ => rfl
  | unremoved staged here =>
      exact spares.staging safe (by rw [here]; rfl) rfl (by simp [here]) fun _ _ => rfl
  | copying staged text part readOnly after here held wrote =>
      have keeps := safe.keeps (by simp [here])
      obtain ⟨low, free, mark, rfl⟩ := Files.of_writeText wrote
      rw [keeps.aim] at low free ⊢
      refine spares.rotate (by rw [here]; rfl) rfl (by rw [here]; rfl) (by simp [here])
        (fun _ => Files.at?_put_of_ne low _)
        ⟨fun isFolder => free (keeps.folders _ isFolder), .inr ⟨⟨part, mark, ?_⟩, ?_⟩⟩
      · exact (Files.at?_put _ low _ _).trans (if_pos rfl)
      · exact ⟨text, readOnly, keeps.file held⟩
  | copied staged after here made =>
      have keeps := safe.keeps (by simp [here])
      obtain ⟨_, free, _, same⟩ := Files.of_copyFile made
      obtain ⟨text, readOnly, held, copy⟩ := Files.copy_of_copyFile made
      rw [keeps.aim] at free same copy
      exact spares.rotate (by rw [here]; rfl) rfl rfl rfl same
        ⟨fun isFolder => free (keeps.folders _ isFolder), .inr ⟨⟨text, readOnly, copy⟩,
          text, readOnly, keeps.file held⟩⟩
  | uncopied staged here =>
      exact spares.staging safe (by rw [here]; rfl) rfl (by simp) fun _ _ => rfl
  | replaced staged after here moved =>
      rw [Safe, here] at safe
      obtain ⟨keeps, own, whole⟩ := safe
      obtain ⟨low, _, rfl, _⟩ := Files.of_moveFile whole moved
      rw [keeps.aim] at low ⊢
      -- The move touches two places: the path itself, and that of the new file, which was free
      -- before.
      have absent := spares.unused staged (by rw [here]; rfl)
      have same : ∀ place, place ≠ before.aim now.path → place ≠ staged →
          ((files.drop staged).put (before.aim now.path) (.file now.text true)).at? place =
            files.at? place := by
        intro place away apart
        rw [Files.at?_put_of_ne low _ away, Files.at?_drop_of_ne own.low apart]
      refine ⟨by simp [atStage, PublishStage.staged?], ?_, ?_⟩
      · intro place away other some_
        have apart : place ≠ staged := by
          rintro rfl
          exact some_ absent
        rw [same place (other rfl) apart]
        exact spares.held place away (by simp [here]) some_
      · have stays := same _ (Files.aim_backupPath_ne before now.path) own.backup.symm
        exact spares.backup.imp (fun grown => grown.of_same stays)
          fun rotating => ⟨rfl, rotating.2.of_same stays⟩
  | refused error fails =>
      exact spares.onward rfl (going_of_mayFail fails) (by simp [atStage, PublishStage.staged?])
        (by simp [atStage]) fun _ => .inl rfl
  | cleared staged error here fails =>
      have own := safe.apart here
      exact spares.onward rfl (going_of_mayFail fails) (by simp [atStage, PublishStage.staged?])
        (by simp [atStage])
        (same_or_unused (spares.unused staged here) own fun _ => Files.at?_drop_of_ne own.low)

theorem spares_runs {start last : Files × Publish} (run : Runs start last)
    (safe : Safe before start.1 start.2) (spares : Spares before start.1 start.2) :
    Spares before last.1 last.2 := by
  induction run with
  | refl => exact spares
  | tail run step ih => exact spares_happens step (safe_runs run safe).1 ih

theorem at?_of_grown (grown : Grown before path files (before.aim (backupPath path)))
    (down : .up ∉ Files.steps path) :
    files.at? (before.aim (backupPath path)) = before.at? (before.aim (backupPath path)) := by
  rcases grown with old | ⟨_, _, above, isAbove, same⟩
  · exact old
  · exact absurd same (Files.aim_ne_backup_of_isAbove isAbove down before)

theorem grown_of_failure {error : PolicyError} (step : Happens files now after next)
    (safe : Safe before files now) (spares : Spares before files now)
    (failed : next.stage = .ended (.error error)) (early : ∀ staged, now.stage ≠ .replace staged) :
    Grown before now.path after (before.aim (backupPath now.path)) := by
  have untouched : now.stage.mayFail = true →
      Grown before now.path files (before.aim (backupPath now.path)) := by
    intro fails
    refine spares.grown ?_
    cases here : now.stage with
    | replace staged => exact absurd here (early staged)
    | removeBackup | copyBackup | ended =>
        rw [here] at fails
        cases fails
    | _ => rfl
  cases step with
  | refused error fails => exact untouched fails
  | cleared staged error here fails =>
      have own := safe.apart here
      exact (untouched fails).of_same (Files.at?_drop_of_ne own.low own.backup.symm)
  | folder above after here | writing staged part here | copying staged text part mark after here =>
      rw [here] at failed
      cases failed
  | _ => cases failed

/-- After a failure the policy is what it was, and so is the backup, unless the move has failed. -/
theorem kept_or_moving {error : PolicyError} (step : Happens files now after next)
    (safe : Safe before files now) (spares : Spares before files now)
    (failed : next.stage = .ended (.error error)) :
    Untouched before now.path after ∧
      (Grown before now.path after (before.aim (backupPath now.path)) ∨
        (∃ staged, now.stage = .replace staged) ∧ Rotated before now.path after) := by
  obtain ⟨later, own, _⟩ := safe_happens step safe
  have keeps := later.keeps (by simp [failed])
  have lasting := (spares_happens step safe spares).backup
  rw [own] at keeps lasting
  refine ⟨keeps.active, lasting.elim .inl ?_⟩
  rintro ⟨_, rotated⟩
  by_cases moving : ∃ staged, now.stage = .replace staged
  · exact .inr ⟨moving, rotated⟩
  · exact .inl (grown_of_failure step safe spares failed fun staged here => moving ⟨staged, here⟩)

/-! ## Nothing is broken off -/

theorem blocked_of_moveFile {refusal : OsError} (low : staged ≠ .root)
    (whole : files.at? staged = some (.file now.text true))
    (refused : files.moveFile staged path = .error refusal) (place : Place) :
    (files.drop staged).landing path ≠ .ok place := by
  intro landed
  have folders : ∀ place, (files.drop staged).at? place = some .folder ↔
      files.at? place = some .folder := by
    intro place
    rw [Files.at?_drop _ low]
    split
    next same => simp [same, whole]
    · rfl
  have working : files.working = (files.drop staged).working := rfl
  have free := Files.landing_of_folders working folders landed
  rw [Files.moveFile, whole] at refused
  simp only [free] at refused
  cases refused

theorem grown_or_blocked {error : PolicyError} (safe : Safe before files now)
    (spares : Spares before files now) (going : ¬ now.HasEnded)
    (failed : (now.advance files).2.stage = .ended (.error error)) :
    Grown before now.path (now.advance files).1 (before.aim (backupPath now.path)) ∨
      ∀ place, (now.advance files).1.landing now.path ≠ .ok place := by
  rw [advance] at failed ⊢
  cases here : now.stage with
  | folders =>
      have made := spares_runs (runs_createFolders here files) safe spares
      have grown := made.grown (by rw [here]; rfl)
      left
      simp only
      split
      next after same =>
        rw [same] at grown
        exact grown
      next after refusal same =>
        rw [same] at grown
        exact grown
  | create =>
      left
      rw [here] at failed
      simp only at failed ⊢
      split at failed
      · cases failed
      · exact spares.grown (by rw [here]; rfl)
  | write staged | flush staged | «seal» staged =>
      rw [here] at failed
      cases failed
  | removeBackup staged =>
      rw [here] at failed
      simp only at failed
      split at failed
      · cases failed
      · cases failed
      · cases failed
  | copyBackup staged =>
      rw [here] at failed
      simp only at failed
      split at failed
      · cases failed
      · cases failed
  | replace staged =>
      rw [Safe, here] at safe
      obtain ⟨_, own, whole⟩ := safe
      right
      rw [here] at failed
      simp only at failed ⊢
      split at failed
      · cases failed
      next refusal refused => exact blocked_of_moveFile own.low whole refused
  | ended answer => exact absurd ⟨answer, here⟩ going

theorem grown_or_blocked_final {error : PolicyError} (named : NamedApart before now.path)
    (safe : Safe before files now) (spares : Spares before files now) (going : ¬ now.HasEnded)
    (failed : (now.final files).2.stage = .ended (.error error)) :
    Grown before now.path (now.final files).1 (before.aim (backupPath now.path)) ∨
      ∀ place, (now.final files).1.landing now.path ≠ .ok place := by
  rw [final] at failed ⊢
  generalize distance now.stage = fuel at failed ⊢
  induction fuel generalizing files now with
  | zero => exact absurd ⟨_, failed⟩ going
  | succ fuel ih =>
      have step := runs_advance named safe
      rw [runFor_succ] at failed ⊢
      by_cases finished : (now.advance files).2.HasEnded
      · rw [runFor_of_hasEnded finished] at failed ⊢
        exact grown_or_blocked safe spares going failed
      · have later := (safe_runs step safe).1
        have own := advance_path files now
        rw [← own] at named ⊢
        exact ih named later (spares_runs step safe spares) finished failed

theorem kept_or_blocked {error : PolicyError} (named : NamedApart before now.path)
    (safe : Safe before files now) (spares : Spares before files now) (going : ¬ now.HasEnded)
    (failed : (now.final files).2.stage = .ended (.error error)) :
    Untouched before now.path (now.final files).1 ∧
      (Grown before now.path (now.final files).1 (before.aim (backupPath now.path)) ∨
        (∀ place, (now.final files).1.landing now.path ≠ .ok place) ∧
          Rotated before now.path (now.final files).1) := by
  have run := runs_final named safe
  obtain ⟨later, own, _⟩ := safe_runs run safe
  have keeps := later.keeps (by simp [failed])
  have lasting := (spares_runs run safe spares).backup
  rw [own] at keeps lasting
  refine ⟨keeps.active, lasting.elim .inl ?_⟩
  rintro ⟨_, rotated⟩
  exact (grown_or_blocked_final named safe spares going failed).imp id
    fun unplaced => ⟨unplaced, rotated⟩

end Publish

/-- Where an operation fails before the move, the place of the backup is as the publishing has
found it; the place of the policy always is.  A publishing that is not broken off comes to lose
the backup only where no file can be put at the path of the policy. -/
theorem failing_keeps_the_backup_before_the_move (files : Files) (path : PathName)
    (compiled : Compiled) :
    let begun : Publish := { path := path, text := compiled.render }
    let backup := files.aim (backupPath path)
    (∀ middle failing after now error, Publish.Runs (files, begun) (middle, failing) →
        Publish.Happens middle failing after now → now.stage = .ended (.error error) →
          Publish.Untouched files path after ∧
            (Publish.Grown files path after backup ∨
              (∃ staged, failing.stage = .replace staged) ∧ Publish.Rotated files path after)) ∧
      (compiled.isEmpty = false → Publish.NamedApart files path → ∀ error,
        (publish files path compiled).2 = .error error →
          Publish.Untouched files path (publish files path compiled).1 ∧
            (Publish.Grown files path (publish files path compiled).1 backup ∨
              (∀ place, (publish files path compiled).1.landing path ≠ .ok place) ∧
                Publish.Rotated files path (publish files path compiled).1)) ∧
      (.up ∉ Files.steps path → ∀ after,
        (Publish.Untouched files path after →
          after.at? (files.aim path) = files.at? (files.aim path)) ∧
        (Publish.Grown files path after backup → after.at? backup = files.at? backup)) := by
  intro begun backup
  have safe : Publish.Safe files files begun := Publish.Keeps.refl files path
  have spares : Publish.Spares files files begun := Publish.Spares.refl files path _
  refine ⟨?_, ?_, ?_⟩
  · intro middle failing after now error run step failed
    obtain ⟨kept, own, _⟩ := Publish.safe_runs run safe
    have sparing := Publish.spares_runs run safe spares
    have outcome := Publish.kept_or_moving step kept sparing failed
    rw [own] at outcome
    exact outcome
  · intro some_ named error
    have finished := Publish.hasEnded_final files begun
    have going : ¬ begun.HasEnded := by
      rintro ⟨_, here⟩
      cases here
    have outcome : (begun.final files).2.stage = .ended (.error error) → _ :=
      Publish.kept_or_blocked named safe spares going
    rw [publish_eq some_]
    dsimp only
    generalize begun.final files = last at finished outcome ⊢
    intro failed
    obtain ⟨answer, here⟩ := finished
    rw [Publish.answer, here] at failed
    cases failed
    exact outcome here
  · intro down after
    exact ⟨fun untouched => Publish.at?_of_untouched untouched down,
      fun grown => Publish.at?_of_grown grown down⟩

def occupiedFiles : Files :=
  { nodes := (Table.empty.insert "/policy.csv" .folder).insert "/policy.csv.bak"
      (.file "p, editor, /old, GET\n" true) }

/-- A disk that is full leaves the backup.  The move that fails at the folder has come too late for
it, and no file can be put there. -/
theorem full_disk_leaves_the_backup :
    let staged : Place := ⟨"/.staged0"⟩
    let backup : Place := ⟨"/policy.csv.bak"⟩
    let begun : Publish := { path := "/policy.csv", text := newPolicy.render }
    let writing := occupiedFiles.put staged (.file "" false)
    Publish.Runs (occupiedFiles, begun) (writing, begun.atStage (.write staged)) ∧
      (writing.drop staged).at? backup = some (.file "p, editor, /old, GET\n" true) ∧
      (publish occupiedFiles "/policy.csv" newPolicy).2 =
        .error (.files "/policy.csv" .isFolder) ∧
      ∀ place, (publish occupiedFiles "/policy.csv" newPolicy).1.landing "/policy.csv" ≠
        .ok place := by
  intro staged backup begun writing
  obtain ⟨broken, whole, plain⟩ :=
    failing_keeps_the_backup_before_the_move occupiedFiles "/policy.csv" newPolicy
  have settled : Publish.Runs (occupiedFiles, begun) (occupiedFiles, begun.atStage .create) :=
    .single (.folders rfl)
  have run : Publish.Runs (occupiedFiles, begun) (writing, begun.atStage (.write staged)) :=
    settled.tail (.created staged rfl rfl (by decide) (by decide))
  have refused : (publish occupiedFiles "/policy.csv" newPolicy).2 =
      .error (.files "/policy.csv" .isFolder) := by decide +kernel
  refine ⟨run, ?_, refused, ?_⟩
  · let full : PolicyError := .files "/" (.other "No space left on device")
    obtain ⟨_, kept⟩ := broken writing _ (writing.drop staged) _ full run
      (.cleared staged full rfl rfl) rfl
    rcases kept with grown | ⟨⟨_, moving⟩, _⟩
    · exact ((plain (by decide) _).2 grown).trans rfl
    · cases moving
  · obtain ⟨_, lost⟩ := whole rfl (.inl (by decide)) _ refused
    rcases lost with grown | ⟨blocked, _⟩
    · have same := (plain (by decide) _).2 grown
      exact absurd same (by decide +kernel)
    · exact blocked

/-- The publishing fails, and the backup is gone.  With steps up that lead through the places of the
policy and of the backup it fails too, and leaves folders at both. -/
theorem folder_in_the_way_costs_the_backup :
    ((publish occupiedFiles "/policy.csv" newPolicy).2 =
        .error (.files "/policy.csv" .isFolder) ∧
      occupiedFiles.status (backupPath "/policy.csv") =
        .ok (.file "p, editor, /old, GET\n" true) ∧
      (publish occupiedFiles "/policy.csv" newPolicy).1.status (backupPath "/policy.csv") =
        .error .notFound) ∧
      let path : PathName := "b/../b.bak/../b"
      (publish {} path newPolicy).2 = .error (.files path .isFolder) ∧
        (({} : Files).at? ⟨"/b"⟩ = none ∧ ({} : Files).at? ⟨"/b.bak"⟩ = none) ∧
        (publish {} path newPolicy).1.status path = .ok .folder ∧
        (publish {} path newPolicy).1.status (backupPath path) = .ok .folder := by
  refine ⟨⟨?_, rfl, ?_⟩, ?_, ⟨rfl, rfl⟩, ?_, ?_⟩
  · decide +kernel
  · decide +kernel
  · decide +kernel
  · decide +kernel
  · decide +kernel

end RoleGrants
