import RoleGrants.Proofs.Files.Aims
import RoleGrants.Proofs.Policy.Publishing

/-! # Publishing that is interrupted

Each operation of a publishing may fail, and the process may end before, between and in
the middle of them: `Happens` lists all that can come next.  Nothing but the last move
touches the place that the path of the policy names (`safe_happens`).  There is only one
way around: a path that comes through its own place by a step up has a folder made there
if nothing is.  So at every point the place holds what it held before or the new policy
(`active_file_is_old_or_new`). -/

set_option autoImplicit false

namespace RoleGrants

/-- The place of the file that is being written. -/
def PublishStage.staged? : PublishStage → Option Place
  | .folders => none
  | .create => none
  | .write staged => some staged
  | .flush staged => some staged
  | .seal staged => some staged
  | .removeBackup staged => some staged
  | .copyBackup staged => some staged
  | .replace staged => some staged
  | .ended _ => none

/-- Whether a failure ends the publishing; a backup that cannot be kept does not. -/
def PublishStage.mayFail : PublishStage → Bool
  | .removeBackup _ => false
  | .copyBackup _ => false
  | .ended _ => false
  | _ => true

namespace Publish

/-- What can happen next: an operation, a part of one, or its failure.  A file in the middle of
being written may hold any text, wherever it has been cut. -/
inductive Happens (files : Files) (now : Publish) : Files → Publish → Prop
  | folder (above : PathName) (after : Files) (here : now.stage = .folders)
      (isAbove : above.IsAbove now.path) (made : files.makeFolder above = .ok after) :
      Happens files now after now
  | folders (here : now.stage = .folders) : Happens files now files (now.atStage .create)
  | created (staged : Place) (here : now.stage = .create) (unused : files.at? staged = none)
      (apart : staged ≠ files.aim now.path)
      (apartBackup : staged ≠ files.aim (backupPath now.path)) :
      Happens files now (files.put staged (.file "" false)) (now.atStage (.write staged))
  | writing (staged : Place) (part : String) (here : now.stage = .write staged) :
      Happens files now (files.put staged (.file part false)) now
  | written (staged : Place) (here : now.stage = .write staged) :
      Happens files now (files.put staged (.file now.text false)) (now.atStage (.flush staged))
  | flushed (staged : Place) (here : now.stage = .flush staged) :
      Happens files now files (now.atStage (.seal staged))
  | sealed (staged : Place) (here : now.stage = .seal staged) :
      Happens files now (files.put staged (.file now.text true))
        (now.atStage (.removeBackup staged))
  | removed (staged : Place) (after : Files) (here : now.stage = .removeBackup staged)
      (gone : files.removeFile (backupPath now.path) = .ok after) :
      Happens files now after (now.atStage (.copyBackup staged))
  | absent (staged : Place) (here : now.stage = .removeBackup staged) :
      Happens files now files (now.atStage (.copyBackup staged))
  | unremoved (staged : Place) (here : now.stage = .removeBackup staged) :
      Happens files now files (now.atStage (.replace staged))
  | copying (staged : Place) (text part : String) (readOnly : Bool) (after : Files)
      (here : now.stage = .copyBackup staged)
      (held : files.status now.path = .ok (.file text readOnly))
      (wrote : files.writeText (backupPath now.path) part = .ok after) :
      Happens files now after now
  | copied (staged : Place) (after : Files) (here : now.stage = .copyBackup staged)
      (made : files.copyFile now.path (backupPath now.path) = .ok after) :
      Happens files now after (now.atStage (.replace staged))
  | uncopied (staged : Place) (here : now.stage = .copyBackup staged) :
      Happens files now files (now.atStage (.replace staged))
  | replaced (staged : Place) (after : Files) (here : now.stage = .replace staged)
      (moved : files.moveFile staged now.path = .ok after) :
      Happens files now after (now.atStage (.ended (.ok ())))
  | refused (error : PolicyError) (fails : now.stage.mayFail = true) :
      Happens files now files (now.atStage (.ended (.error error)))
  | cleared (staged : Place) (error : PolicyError) (here : now.stage.staged? = some staged)
      (fails : now.stage.mayFail = true) :
      Happens files now (files.drop staged) (now.atStage (.ended (.error error)))

def Runs : Files × Publish → Files × Publish → Prop :=
  Relation.ReflTransGen fun first second => Happens first.1 first.2 second.1 second.2

/-! ## What stays -/

/-- The place that the path names is as it was, or it is on the way and has been made a folder
where nothing was. -/
def Untouched (before : Files) (path : PathName) (files : Files) : Prop :=
  files.at? (before.aim path) = before.at? (before.aim path) ∨
    before.at? (before.aim path) = none ∧ files.at? (before.aim path) = some .folder ∧
      ∃ above : PathName, above.IsAbove path ∧ before.aim above = before.aim path

structure Keeps (before : Files) (path : PathName) (files : Files) : Prop where
  working : files.working = before.working
  folders : ∀ place, before.at? place = some .folder → files.at? place = some .folder
  active : Untouched before path files

structure Apart (before : Files) (path : PathName) (staged : Place) : Prop where
  low : staged ≠ .root
  active : staged ≠ before.aim path
  backup : staged ≠ before.aim (backupPath path)
  free : before.at? staged ≠ some .folder

def Safe (before files : Files) (now : Publish) : Prop :=
  match now.stage with
  | .folders => Keeps before now.path files
  | .create => Keeps before now.path files
  | .write staged => Keeps before now.path files ∧ Apart before now.path staged
  | .flush staged => Keeps before now.path files ∧ Apart before now.path staged
  | .seal staged => Keeps before now.path files ∧ Apart before now.path staged
  | .removeBackup staged =>
      Keeps before now.path files ∧ Apart before now.path staged ∧
        files.at? staged = some (.file now.text true)
  | .copyBackup staged =>
      Keeps before now.path files ∧ Apart before now.path staged ∧
        files.at? staged = some (.file now.text true)
  | .replace staged =>
      Keeps before now.path files ∧ Apart before now.path staged ∧
        files.at? staged = some (.file now.text true)
  | .ended (.ok ()) =>
      files.at? (before.aim now.path) = some (.file now.text true) ∧
        files.locate now.path = .ok (before.aim now.path)
  | .ended (.error _) => Keeps before now.path files

variable {before files after : Files} {now next : Publish} {path : PathName} {staged : Place}

theorem Keeps.refl (files : Files) (path : PathName) : Keeps files path files :=
  ⟨rfl, fun _ isFolder => isFolder, .inl rfl⟩

theorem Keeps.aim (keeps : Keeps before path files) (other : PathName) :
    files.aim other = before.aim other :=
  Files.aim_of_working keeps.working other

theorem Keeps.elsewhere {spot : Place} (keeps : Keeps before path files)
    (working : after.working = files.working)
    (same : ∀ other, other ≠ spot → after.at? other = files.at? other)
    (apart : spot ≠ before.aim path) (free : before.at? spot ≠ some .folder) :
    Keeps before path after where
  working := working.trans keeps.working
  folders place isFolder := by
    have away : place ≠ spot := by
      rintro rfl
      exact free isFolder
    rw [same place away]
    exact keeps.folders place isFolder
  active := by
    have here := same (before.aim path) apart.symm
    rcases keeps.active with old | ⟨absent, isFolder, way⟩
    · exact .inl (here.trans old)
    · exact .inr ⟨absent, here.trans isFolder, way⟩

theorem Keeps.put (keeps : Keeps before path files) (apart : Apart before path staged)
    (node : Node) : Keeps before path (files.put staged node) := by
  refine keeps.elsewhere rfl ?_ apart.active apart.free
  intro other away
  rw [Files.at?_put _ apart.low, if_neg away]

theorem Keeps.drop (keeps : Keeps before path files) (apart : Apart before path staged) :
    Keeps before path (files.drop staged) := by
  refine keeps.elsewhere rfl ?_ apart.active apart.free
  intro other away
  rw [Files.at?_drop _ apart.low, if_neg away]

theorem Keeps.backup (keeps : Keeps before path files) (working : after.working = files.working)
    (free : files.at? (files.aim (backupPath path)) ≠ some .folder)
    (same : ∀ other, other ≠ files.aim (backupPath path) → after.at? other = files.at? other) :
    Keeps before path after := by
  rw [keeps.aim] at free same
  exact keeps.elsewhere working same (Files.aim_backupPath_ne before path)
    fun isFolder => free (keeps.folders _ isFolder)

/-- A folder that is made where nothing is can only be on the way. -/
theorem Keeps.folder {above : PathName} (keeps : Keeps before path files)
    (isAbove : above.IsAbove path) (made : files.makeFolder above = .ok after) :
    Keeps before path after := by
  obtain ⟨low, absent, rfl⟩ := Files.of_makeFolder made
  rw [keeps.aim] at low absent ⊢
  refine ⟨keeps.working, ?_, ?_⟩
  · intro place isFolder
    rw [Files.at?_put _ low]
    split
    · rfl
    · exact keeps.folders place isFolder
  · rw [Untouched, Files.at?_put _ low]
    split
    next same =>
      refine .inr ⟨?_, rfl, above, isAbove, same.symm⟩
      rcases keeps.active with old | ⟨nothing, _, _⟩
      · rw [← old, same]
        exact absent
      · exact nothing
    · exact keeps.active

theorem Keeps.apart (keeps : Keeps before path files) (unused : files.at? staged = none)
    (active : staged ≠ files.aim path) (backup : staged ≠ files.aim (backupPath path)) :
    Apart before path staged where
  low := by
    rintro rfl
    cases unused
  active := keeps.aim path ▸ active
  backup := keeps.aim (backupPath path) ▸ backup
  free := by
    intro isFolder
    rw [keeps.folders staged isFolder] at unused
    cases unused

theorem at?_put_self (apart : Apart before path staged) (files : Files) (node : Node) :
    (files.put staged node).at? staged = some node := by
  rw [Files.at?_put _ apart.low, if_pos rfl]

theorem Safe.keeps (safe : Safe before files now) (going : now.stage ≠ .ended (.ok ())) :
    Keeps before now.path files := by
  rw [Safe] at safe
  split at safe
  · exact safe
  · exact safe
  · exact safe.1
  · exact safe.1
  · exact safe.1
  · exact safe.1
  · exact safe.1
  · exact safe.1
  next here => exact absurd here going
  · exact safe

theorem Safe.apart (safe : Safe before files now) (here : now.stage.staged? = some staged) :
    Apart before now.path staged := by
  rw [Safe] at safe
  cases stage : now.stage with
  | folders | create | ended answer =>
      rw [stage] at here
      cases here
  | write | flush | «seal» =>
      rw [stage] at here safe
      cases here
      exact safe.2
  | removeBackup | copyBackup | replace =>
      rw [stage] at here safe
      cases here
      exact safe.2.1

theorem safe_happens (step : Happens files now after next) (safe : Safe before files now) :
    Safe before after next ∧ next.path = now.path ∧ next.text = now.text := by
  have keeps : now.stage ≠ .ended (.ok ()) → Keeps before now.path files := safe.keeps
  cases step with
  | folder above after here isAbove made =>
      rw [Safe, here] at safe ⊢
      exact ⟨safe.folder isAbove made, rfl, rfl⟩
  | folders here =>
      rw [Safe, here] at safe
      exact ⟨safe, rfl, rfl⟩
  | created staged here unused apart apartBackup =>
      rw [Safe, here] at safe
      have own := safe.apart unused apart apartBackup
      exact ⟨⟨safe.put own _, own⟩, rfl, rfl⟩
  | writing staged part here =>
      rw [Safe, here] at safe ⊢
      exact ⟨⟨safe.1.put safe.2 _, safe.2⟩, rfl, rfl⟩
  | written staged here =>
      rw [Safe, here] at safe
      exact ⟨⟨safe.1.put safe.2 _, safe.2⟩, rfl, rfl⟩
  | flushed staged here =>
      rw [Safe, here] at safe
      exact ⟨safe, rfl, rfl⟩
  | sealed staged here =>
      rw [Safe, here] at safe
      exact ⟨⟨safe.1.put safe.2 _, safe.2, at?_put_self safe.2 files _⟩, rfl, rfl⟩
  | removed staged after here gone =>
      rw [Safe, here] at safe
      obtain ⟨kept, own, whole⟩ := safe
      obtain ⟨low, free, rfl⟩ := Files.of_removeFile gone
      have same : ∀ other, other ≠ files.aim (backupPath now.path) →
          (files.drop (files.aim (backupPath now.path))).at? other = files.at? other := by
        intro other away
        rw [Files.at?_drop _ low, if_neg away]
      refine ⟨⟨kept.backup rfl free same, own, ?_⟩, rfl, rfl⟩
      exact (same staged (kept.aim _ ▸ own.backup)).trans whole
  | absent staged here =>
      rw [Safe, here] at safe
      exact ⟨safe, rfl, rfl⟩
  | unremoved staged here =>
      rw [Safe, here] at safe
      exact ⟨safe, rfl, rfl⟩
  | copying staged text part readOnly after here held wrote =>
      rw [Safe, here] at safe ⊢
      obtain ⟨kept, own, whole⟩ := safe
      obtain ⟨low, free, mark, rfl⟩ := Files.of_writeText wrote
      have same : ∀ other, other ≠ files.aim (backupPath now.path) →
          (files.put (files.aim (backupPath now.path)) (.file part mark)).at? other =
            files.at? other := by
        intro other away
        rw [Files.at?_put _ low, if_neg away]
      refine ⟨⟨kept.backup rfl free same, own, ?_⟩, rfl, rfl⟩
      exact (same staged (kept.aim _ ▸ own.backup)).trans whole
  | copied staged after here made =>
      rw [Safe, here] at safe
      obtain ⟨kept, own, whole⟩ := safe
      obtain ⟨low, free, working, same⟩ := Files.of_copyFile made
      refine ⟨⟨kept.backup working free same, own, ?_⟩, rfl, rfl⟩
      exact (same staged (kept.aim _ ▸ own.backup)).trans whole
  | uncopied staged here =>
      rw [Safe, here] at safe
      exact ⟨safe, rfl, rfl⟩
  | replaced staged after here moved =>
      rw [Safe, here] at safe
      obtain ⟨kept, own, whole⟩ := safe
      -- No other step writes at the path, and what this one puts there is whole and sealed already.
      obtain ⟨low, free, rfl, leads⟩ := Files.of_moveFile whole moved
      rw [kept.aim] at low free leads ⊢
      refine ⟨⟨?_, ?_⟩, rfl, rfl⟩
      · exact (Files.at?_put _ low _ _).trans (if_pos rfl)
      · refine leads _ rfl ?_
        intro place isFolder
        have away : place ≠ before.aim now.path := by
          rintro rfl
          exact free isFolder
        have apart : place ≠ staged := by
          rintro rfl
          rw [whole] at isFolder
          cases isFolder
        rw [Files.at?_put _ low, if_neg away, Files.at?_drop _ own.low, if_neg apart]
        exact isFolder
  | refused error fails =>
      refine ⟨keeps ?_, rfl, rfl⟩
      intro here
      rw [here] at fails
      cases fails
  | cleared staged error here fails =>
      refine ⟨(keeps ?_).drop (safe.apart here), rfl, rfl⟩
      intro finished
      rw [finished] at fails
      cases fails

theorem safe_runs {start last : Files × Publish} (run : Runs start last)
    (safe : Safe before start.1 start.2) :
    Safe before last.1 last.2 ∧ last.2.path = start.2.path ∧ last.2.text = start.2.text := by
  induction run with
  | refl => exact ⟨safe, rfl, rfl⟩
  | tail run step ih =>
      obtain ⟨kept, path, text⟩ := ih
      obtain ⟨later, samePath, sameText⟩ := safe_happens step kept
      exact ⟨later, samePath.trans path, sameText.trans text⟩

/-! ## What the path shows -/

theorem Keeps.status {node : Node} (keeps : Keeps before path files)
    (reached : before.status path = .ok node) : files.status path = .ok node := by
  rw [Files.status_eq_ok_iff] at reached ⊢
  rw [keeps.aim]
  refine ⟨Files.locate_of_folders keeps.working keeps.folders reached.1, ?_⟩
  rcases keeps.active with old | ⟨absent, _⟩
  · exact old.trans reached.2
  · rw [absent] at reached
    cases reached.2

theorem at?_of_untouched (untouched : Untouched before path files)
    (down : .up ∉ Files.steps path) :
    files.at? (before.aim path) = before.at? (before.aim path) := by
  rcases untouched with old | ⟨_, _, above, isAbove, same⟩
  · exact old
  · exact absurd same (Files.aim_ne_of_isAbove isAbove down before)

theorem Keeps.status_iff (keeps : Keeps before path files) (rooted : before.IsRooted)
    (down : .up ∉ Files.steps path) (node : Node) :
    files.status path = .ok node ↔ before.status path = .ok node := by
  refine ⟨?_, keeps.status⟩
  intro reached
  rw [Files.status_eq_ok_iff, keeps.aim] at reached
  obtain ⟨led, found⟩ := reached
  have same := at?_of_untouched keeps.active down
  rw [same] at found
  have held : before.at? (before.aim path) ≠ none := by
    rw [found]
    nofun
  rw [Files.status_eq_ok_iff]
  exact ⟨rooted.locate_of_same down keeps.working held same led, found⟩

structure Shows (before : Files) (path : PathName) (text : String) (files : Files)
    (stage : PublishStage) : Prop where
  /-- The place that the path names holds what it held, or the new policy. -/
  place : Untouched before path files ∨ files.at? (before.aim path) = some (.file text true)
  /-- The path reaches nothing but what is at that place. -/
  reached : ∀ node, files.status path = .ok node → files.at? (before.aim path) = some node
  /-- What the path has reached before does not vanish. -/
  present : ∀ node, before.status path = .ok node →
    files.status path = .ok node ∨ files.status path = .ok (.file text true)
  /-- Before its success a publishing leaves what the path has reached. -/
  going : stage ≠ .ended (.ok ()) → Untouched before path files ∧
    ∀ node, before.status path = .ok node → files.status path = .ok node
  /-- Without a step up the path reaches nothing new either. -/
  plain : stage ≠ .ended (.ok ()) → .up ∉ Files.steps path →
    files.at? (before.aim path) = before.at? (before.aim path) ∧
      (before.IsRooted → ∀ node, files.status path = .ok node ↔ before.status path = .ok node)
  published : stage = .ended (.ok ()) → files.status path = .ok (.file text true)

theorem Keeps.shows {stage : PublishStage} (keeps : Keeps before path files)
    (going : stage ≠ .ended (.ok ())) (text : String) : Shows before path text files stage where
  place := .inl keeps.active
  reached node reached := by
    rw [← keeps.aim]
    exact (Files.status_eq_ok_iff.mp reached).2
  present _ reached := .inl (keeps.status reached)
  going _ := ⟨keeps.active, fun _ reached => keeps.status reached⟩
  plain _ down := ⟨at?_of_untouched keeps.active down, fun rooted => keeps.status_iff rooted down⟩
  published finished := absurd finished going

theorem Safe.shows (safe : Safe before files now) :
    Shows before now.path now.text files now.stage := by
  by_cases finished : now.stage = .ended (.ok ())
  · rw [Safe, finished] at safe
    obtain ⟨whole, led⟩ := safe
    have reads : files.status now.path = .ok (.file now.text true) := by
      rw [Files.status_eq_ok_iff, ← Files.aim_of_locate led]
      exact ⟨led, whole⟩
    have stays : ∀ {claim : Prop}, now.stage ≠ .ended (.ok ()) → claim :=
      fun going => absurd finished going
    refine ⟨.inr whole, ?_, fun _ _ => .inr reads, stays, fun going => stays going, fun _ => reads⟩
    intro node reached
    rw [reads] at reached
    cases reached
    exact whole
  · exact (safe.keeps finished).shows finished now.text

/-! ## Publishing at one go -/

/-- The name of a new file is not the name of the policy, unless that is there already. -/
def NamedApart (before : Files) (path : PathName) : Prop :=
  before.at? (before.aim path) ≠ none ∨
    ∀ (folder : Place) (number : Nat), before.aim path ≠ folder.child (".staged" ++ toString number)

theorem makeFolders_here (fuel : Nat) (files : Files) : (files.makeFolders fuel ".").1 = files := by
  have refused : ∀ made, files.makeFolder "." ≠ .ok made := by
    intro made done
    obtain ⟨⟨folder, piece⟩, found, done⟩ := bind_eq_ok done
    obtain ⟨_, fine, found⟩ := bind_eq_ok found
    cases Files.checked_eq fine
    obtain ⟨_, _, found⟩ := bind_eq_ok found
    obtain ⟨_, _, found⟩ := bind_eq_ok found
    cases found
    cases done
  cases fuel with
  | zero => rfl
  | succ fuel =>
      rw [Files.makeFolders, if_neg (by decide)]
      split
      next made done => exact absurd done (refused made)
      · have parent : PathName.parent? "." = some "" := by decide
        rw [parent]
        have above : files.makeFolders fuel "" = (files, .ok ()) ∨
            files.makeFolders fuel "" = (files, .error .noTree) := by
          cases fuel with
          | zero => exact .inr rfl
          | succ fuel => exact .inl rfl
        rcases above with same | same
        · simp only [same]
          split
          next made done => exact absurd done (refused made)
          · rfl
        · simp only [same]
      · rfl

theorem runs_makeFolders (here : now.stage = .folders) {fuel : Nat} {folder : PathName}
    (way : folder = "" ∨ folder.IsAbove now.path) :
    Runs (files, now) ((files.makeFolders fuel folder).1, now) := by
  induction fuel generalizing folder with
  | zero => exact .refl
  | succ fuel ih =>
      have one : ∀ {start made : Files}, folder ≠ "" → start.makeFolder folder = .ok made →
          Happens start now made now := by
        intro start made some_ done
        exact .folder folder made here (way.resolve_left some_) done
      rw [Files.makeFolders]
      split
      · exact .refl
      next some_ =>
        split
        next made done => exact .single (one some_ done)
        · split
          · exact .refl
          next parent own =>
            have above : parent = "" ∨ parent.IsAbove now.path := by
              by_cases empty : parent = ""
              · exact .inl empty
              · exact .inr (.head ⟨empty, own⟩ (way.resolve_left some_))
            have runs := ih above
            split
            next middle refusal same =>
              rw [same] at runs
              exact runs
            next middle same =>
              rw [same] at runs
              split
              next made done => exact runs.tail (one some_ done)
              · exact runs
        · exact .refl

theorem runs_createFolders (here : now.stage = .folders) (files : Files) :
    Runs (files, now) ((files.createFolders (folderOf now.path)).1, now) := by
  have way : folderOf now.path = "." ∨ (folderOf now.path).IsAbove now.path := by
    rw [folderOf]
    split
    · exact .inl rfl
    next parent own =>
      split
      · exact .inl rfl
      next some_ => exact .inr (.single ⟨some_, own⟩)
  rcases way with same | above
  · rw [same, Files.createFolders, makeFolders_here]
    exact .refl
  · exact runs_makeFolders here (.inr above)

theorem of_stagedPlace (named : NamedApart before path) (keeps : Keeps before path files)
    {folder : PathName} (found : stagedPlace files folder = .ok staged) :
    files.at? staged = none ∧ staged ≠ files.aim path ∧
      staged ≠ files.aim (backupPath path) := by
  obtain ⟨place, _, found⟩ := bind_eq_ok found
  obtain ⟨_, _, found⟩ := bind_eq_ok found
  cases found
  obtain ⟨number, name, unused⟩ := files.exists_freshName place
  refine ⟨unused, ?_, ?_⟩
  · rw [keeps.aim]
    intro same
    rw [same] at unused
    rcases named with held | other
    · rcases keeps.active with old | ⟨absent, _⟩
      · exact held (old.symm.trans unused)
      · exact held absent
    · exact other place number (name ▸ same.symm)
  · obtain ⟨last, ending, plain, letter⟩ := exists_backup_name path
    obtain ⟨front, parted⟩ := List.getLast?_eq_some_iff.mp ending
    rw [Files.aim, parted, List.foldl_append]
    exact (IsStaged.of_freshName files place).ne_backup plain letter _

theorem runs_advance (named : NamedApart before now.path) (safe : Safe before files now) :
    Runs (files, now) (now.advance files) := by
  rw [advance]
  cases here : now.stage with
  | folders =>
      have folders := runs_createFolders here files
      simp only
      split
      next made same =>
        rw [same] at folders
        exact folders.tail (.folders here)
      next made error same =>
        rw [same] at folders
        exact folders.tail (.refused _ (by rw [here]; rfl))
  | create =>
      rw [Safe, here] at safe
      simp only
      split
      next staged found =>
        obtain ⟨unused, apart, apartBackup⟩ := of_stagedPlace named safe found
        exact .single (.created staged here unused apart apartBackup)
      next error found => exact .single (.refused _ (by rw [here]; rfl))
  | write staged => exact .single (.written staged here)
  | flush staged => exact .single (.flushed staged here)
  | «seal» staged => exact .single (.sealed staged here)
  | removeBackup staged =>
      simp only
      split
      next after gone => exact .single (.removed staged after here gone)
      · exact .single (.absent staged here)
      · exact .single (.unremoved staged here)
  | copyBackup staged =>
      simp only
      split
      next after made => exact .single (.copied staged after here made)
      · exact .single (.uncopied staged here)
  | replace staged =>
      simp only
      split
      next after moved => exact .single (.replaced staged after here moved)
      · exact .single (.cleared staged _ (by rw [here]; rfl) (by rw [here]; rfl))
  | ended answer => exact .refl

theorem runs_runFor (fuel : Nat) (named : NamedApart before now.path)
    (safe : Safe before files now) : Runs (files, now) (runFor fuel files now) := by
  induction fuel generalizing files now with
  | zero => exact .refl
  | succ fuel ih =>
      have step := runs_advance named safe
      obtain ⟨later, path, _⟩ := safe_runs step safe
      have still : NamedApart before (now.advance files).2.path := by
        rw [path]
        exact named
      rw [runFor_succ]
      exact step.trans (ih still later)

theorem runs_final (named : NamedApart before now.path) (safe : Safe before files now) :
    Runs (files, now) (now.final files) :=
  runs_runFor _ named safe

end Publish

/-- An empty policy changes nothing.  Wherever the publishing of another one fails or is broken
off, the place that the path names holds what it held before or the whole new policy, and what
the path has reached does not vanish; after a failure it is the old, after success the new one.
Publishing at one go is one of these runs. -/
theorem active_file_is_old_or_new (files : Files) (path : PathName) (compiled : Compiled) :
    let begun : Publish := { path := path, text := compiled.render }
    (compiled.isEmpty = true → publish files path compiled = (files, .error .empty)) ∧
      (∀ after now, Publish.Runs (files, begun) (after, now) →
        Publish.Shows files path compiled.render after now.stage) ∧
      (compiled.isEmpty = false → Publish.NamedApart files path →
        ∃ now, Publish.Runs (files, begun) ((publish files path compiled).1, now) ∧
          now.stage = .ended (publish files path compiled).2) := by
  intro begun
  have safe : Publish.Safe files files begun := Publish.Keeps.refl files path
  refine ⟨?_, ?_, ?_⟩
  · intro empty
    rw [publish, if_pos empty]
  · intro after now run
    obtain ⟨kept, own, text⟩ := Publish.safe_runs run safe
    have shown := kept.shows
    rw [own, text] at shown
    exact shown
  · intro some_ named
    have apart : Publish.NamedApart files begun.path := named
    have run : Publish.Runs (files, begun) (begun.final files) := Publish.runs_final apart safe
    have finished := Publish.hasEnded_final files begun
    rw [publish_eq some_]
    dsimp only
    generalize begun.final files = last at run finished ⊢
    obtain ⟨answer, ended⟩ := finished
    refine ⟨last.2, run, ?_⟩
    rw [Publish.answer, ended]

def olderFiles : Files :=
  { nodes := Table.empty.insert "/policy.csv" (.file "p, editor, /old, GET\n" true) }

def newPolicy : Compiled :=
  { lines := [⟨"editor", "/new", "GET"⟩], roles := 1, resources := 1 }

theorem isRooted_olderFiles : olderFiles.IsRooted := by
  intro place name held
  rw [olderFiles, Files.at?, if_neg (place.child_ne_root name), Table.get?_insert] at held
  split at held
  next same =>
    have characters : place.key.toList ++ '/' :: name.toList = '/' :: "policy.csv".toList := by
      have lists := congrArg String.toList same
      rw [Place.child, String.toList_append, String.toList_append, List.append_assoc] at lists
      exact lists
    cases key : place.key.toList with
    | nil =>
        have root : place = .root := congrArg Place.mk (String.toList_inj.mp key)
        rw [root]
        rfl
    | cons first rest =>
        -- there is but one slash in the name
        rw [key] at characters
        obtain ⟨_, later⟩ : first = '/' ∧ rest ++ '/' :: name.toList = "policy.csv".toList :=
          List.cons.inj characters
        have inside : '/' ∈ "policy.csv".toList := by
          rw [← later, List.mem_append]
          exact .inr List.mem_cons_self
        exact absurd inside (by decide)
  · exact absurd (Table.get?_empty _) held

/-- A process that ends in the middle of writing leaves the older policy, and a publishing that is
not broken off puts the new one there. -/
theorem torn_write_leaves_the_older_policy :
    let staged : Place := ⟨"/.staged0"⟩
    let begun : Publish := { path := "/policy.csv", text := newPolicy.render }
    let torn := (olderFiles.put staged (.file "" false)).put staged (.file "p, edit" false)
    Publish.Runs (olderFiles, begun) (torn, begun.atStage (.write staged)) ∧
      torn.status "/policy.csv" = .ok (.file "p, editor, /old, GET\n" true) ∧
      (publish olderFiles "/policy.csv" {}).1 = olderFiles ∧
      (publish olderFiles "/policy.csv" newPolicy).1.status "/policy.csv" =
        .ok (.file "p, editor, /new, GET\n" true) := by
  intro staged begun torn
  have older : olderFiles.status "/policy.csv" = .ok (.file "p, editor, /old, GET\n" true) := rfl
  have run : Publish.Runs (olderFiles, begun) (torn, begun.atStage (.write staged)) := by
    have settled : Publish.Runs (olderFiles, begun) (olderFiles, begun.atStage .create) :=
      .single (.folders rfl)
    have made : Publish.Runs (olderFiles, begun)
        (olderFiles.put staged (.file "" false), begun.atStage (.write staged)) :=
      settled.tail (.created staged rfl rfl (by decide) (by decide))
    exact made.tail (.writing staged "p, edit" rfl)
  have all := active_file_is_old_or_new olderFiles "/policy.csv"
  have shown := (all newPolicy).2.1 _ _ run
  obtain ⟨now, whole, ended⟩ := (all newPolicy).2.2 rfl (.inl (by decide))
  have done : (publish olderFiles "/policy.csv" newPolicy).2 = .ok () :=
    ok_of_toOption (by decide +kernel)
  rw [done] at ended
  have same := (shown.plain nofun (by decide)).2 isRooted_olderFiles
  refine ⟨run, (same _).mpr older, ?_, ((all newPolicy).2.1 _ _ whole).published ended⟩
  rw [(all {}).1 rfl]

/-- A path may come through its own place: then a folder is made where nothing was, and the
publishing that fails at it leaves it there. -/
theorem folder_on_the_way_is_left_at_the_path :
    ({} : Files).status "b/../b" = .error .notFound ∧
      (publish {} "b/../b" newPolicy).2 = .error (.files "b/../b" .isFolder) ∧
      (publish {} "b/../b" newPolicy).1.status "b/../b" = .ok .folder := by
  refine ⟨rfl, ?_, ?_⟩
  · decide +kernel
  · decide +kernel

end RoleGrants
