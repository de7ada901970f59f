import RoleGrants.Policy.Publish
import RoleGrants.Proofs.Files.Paths

/-! # What publishing leaves behind

A policy is written under a name that no backup has, so keeping a backup of the
active file does not touch it.  `Faithful` is what the files hold at each stage;
every stage keeps it (`faithful_advance`), and at the end of a publishing that did
not fail the path reads the text that was to be published. -/

set_option autoImplicit false

namespace RoleGrants.Publish

theorem exists_backup_name (path : PathName) :
    ∃ name : String, (Files.steps (backupPath path)).getLast? = some (.name name) ∧
      '/' ∉ name.toList ∧ name.toList.getLast? = some 'k' := by
  have plain : '/' ∉ (path.fileName?.getD "" ++ ".bak").toList := by
    cases named : path.fileName? with
    | none => simp
    | some last =>
        have clear := Files.slash_notMem_fileName named
        simpa using clear
  have ending : (path.fileName?.getD "" ++ ".bak").toList.getLast? = some 'k' := by
    rw [String.toList_append, List.getLast?_append]
    rfl
  have real : ∀ other : String, other.toList.getLast? ≠ some 'k' →
      path.fileName?.getD "" ++ ".bak" ≠ other := by
    rintro _ apart rfl
    exact apart ending
  exact ⟨_, Files.getLast?_steps_withFileName path plain
    ⟨real "" (by decide), real "." (by decide), real ".." (by decide)⟩, plain, ending⟩

/-- A new file has a name without a slash, and the name of no backup. -/
theorem plain_freshName (files : Files) (folder : Place) :
    '/' ∉ (files.freshName folder).toList ∧
      (files.freshName folder).toList.getLast? ≠ some 'k' := by
  obtain ⟨number, name, _⟩ := files.exists_freshName folder
  have digits : ∀ character ∈ (toString number).toList, character.isDigit = true := by
    intro character member
    rw [Nat.toString_eq_repr, Nat.toList_repr] at member
    exact Nat.isDigit_of_mem_toDigits (by decide) (by decide) member
  rw [name]
  refine ⟨?_, ?_⟩
  · intro slash
    rw [String.toList_append, List.mem_append] at slash
    rcases slash with front | back
    · exact absurd front (by decide)
    · exact absurd (digits _ back) (by decide)
  · intro last
    rw [String.toList_append, List.getLast?_append] at last
    cases ending : (toString number).toList.getLast? with
    | none =>
        rw [ending] at last
        exact absurd last (by decide)
    | some character =>
        rw [ending] at last
        cases last
        exact absurd (digits _ (List.mem_of_getLast? ending)) (by decide)

/-- A place that the path of no backup leads to. -/
def IsStaged (place : Place) : Prop :=
  ∃ (folder : Place) (name : String), place = folder.child name ∧ '/' ∉ name.toList ∧
    name.toList.getLast? ≠ some 'k'

namespace IsStaged

variable {place : Place}

theorem ne_root (staged : IsStaged place) : place ≠ .root := by
  obtain ⟨folder, name, rfl, _⟩ := staged
  exact folder.child_ne_root name

theorem ne_backup (staged : IsStaged place) {name : String} (plain : '/' ∉ name.toList)
    (ending : name.toList.getLast? = some 'k') (folder : Place) : place ≠ folder.child name := by
  obtain ⟨own, other, rfl, clear, apart⟩ := staged
  intro same
  exact apart (Place.name_of_child clear plain same ▸ ending)

theorem of_freshName (files : Files) (folder : Place) :
    IsStaged (folder.child (files.freshName folder)) :=
  ⟨folder, files.freshName folder, rfl, plain_freshName files folder⟩

end IsStaged

/-- What the files hold of a text that is being published. -/
def Faithful (files : Files) (publish : Publish) : Prop :=
  match publish.stage with
  | .folders | .create => True
  | .write place => IsStaged place
  | .flush place | .seal place =>
      IsStaged place ∧ files.at? place = some (.file publish.text false)
  | .removeBackup place | .copyBackup place | .replace place =>
      IsStaged place ∧ files.at? place = some (.file publish.text true)
  | .ended (.ok ()) => files.readText publish.path = .ok publish.text
  | .ended (.error error) => ∃ path cause, error = .files path cause

theorem faithful_advance {files : Files} {publish : Publish} (faithful : Faithful files publish) :
    Faithful (publish.advance files).1 (publish.advance files).2 := by
  rw [advance]
  cases here : publish.stage with
  | folders =>
      simp only
      split
      · trivial
      · exact ⟨_, _, rfl⟩
  | create =>
      simp only
      split
      next place made =>
        obtain ⟨folder, _, made⟩ := bind_eq_ok made
        obtain ⟨_, _, made⟩ := bind_eq_ok made
        cases made
        exact IsStaged.of_freshName files folder
      · exact ⟨_, _, rfl⟩
  | write place =>
      rw [Faithful, here] at faithful
      refine ⟨faithful, ?_⟩
      exact (Files.at?_put _ faithful.ne_root _ _).trans (if_pos rfl)
  | flush place =>
      rw [Faithful, here] at faithful
      exact faithful
  | «seal» place =>
      rw [Faithful, here] at faithful
      refine ⟨faithful.1, ?_⟩
      exact (Files.at?_put _ faithful.1.ne_root _ _).trans (if_pos rfl)
  | removeBackup place =>
      rw [Faithful, here] at faithful
      obtain ⟨name, last, plain, ending⟩ := exists_backup_name publish.path
      simp only
      split
      next removed gone =>
        refine ⟨faithful.1, ?_⟩
        exact (Files.at?_removeFile last gone (faithful.1.ne_backup plain ending)).trans faithful.2
      · exact faithful
      · exact faithful
  | copyBackup place =>
      rw [Faithful, here] at faithful
      obtain ⟨name, last, plain, ending⟩ := exists_backup_name publish.path
      simp only
      split
      next copied made =>
        refine ⟨faithful.1, ?_⟩
        exact (Files.at?_copyFile last made (faithful.1.ne_backup plain ending)).trans faithful.2
      · exact faithful
  | replace place =>
      rw [Faithful, here] at faithful
      simp only
      split
      next after moved => exact Files.readText_moveFile faithful.1.ne_root faithful.2 moved
      · exact ⟨_, _, rfl⟩
  | ended answer =>
      rw [Faithful, here] at faithful
      rw [Faithful, here]
      exact faithful

@[simp] theorem advance_path (files : Files) (publish : Publish) :
    (publish.advance files).2.path = publish.path := by
  rw [advance]
  cases publish.stage <;> simp only <;> (try split) <;> rfl

@[simp] theorem advance_text (files : Files) (publish : Publish) :
    (publish.advance files).2.text = publish.text := by
  rw [advance]
  cases publish.stage <;> simp only <;> (try split) <;> rfl

/-! ## To the end -/

def HasEnded (publish : Publish) : Prop :=
  ∃ answer, publish.stage = .ended answer

theorem advance_of_hasEnded {publish : Publish} (finished : publish.HasEnded) (files : Files) :
    publish.advance files = (files, publish) := by
  obtain ⟨answer, here⟩ := finished
  rw [advance, here]

theorem hasEnded_of_distance {publish : Publish} (near : distance publish.stage = 0) :
    publish.HasEnded := by
  cases here : publish.stage with
  | ended answer => exact ⟨answer, here⟩
  | _ =>
      rw [here] at near
      cases near

theorem distance_advance {publish : Publish} (going : ¬ publish.HasEnded) (files : Files) :
    distance (publish.advance files).2.stage < distance publish.stage := by
  rw [advance]
  cases here : publish.stage with
  | ended answer => exact absurd ⟨answer, here⟩ going
  | write place => exact Nat.lt_succ_self 5
  | flush place => exact Nat.lt_succ_self 4
  | «seal» place => exact Nat.lt_succ_self 3
  | _ =>
      simp only
      split <;> simp [atStage, fail, distance]

theorem runFor_succ (fuel : Nat) (files : Files) (publish : Publish) :
    runFor (fuel + 1) files publish =
      runFor fuel (publish.advance files).1 (publish.advance files).2 := rfl

theorem runFor_of_hasEnded {publish : Publish} (finished : publish.HasEnded) (fuel : Nat)
    (files : Files) : runFor fuel files publish = (files, publish) := by
  induction fuel with
  | zero => rfl
  | succ fuel ih => rw [runFor_succ, advance_of_hasEnded finished, ih]

/-- With the stages that are left made, more of them change nothing. -/
theorem runFor_eq_of_le {fuel more : Nat} {files : Files} {publish : Publish}
    (enough : distance publish.stage ≤ fuel) (also : distance publish.stage ≤ more) :
    runFor fuel files publish = runFor more files publish := by
  induction fuel generalizing more files publish with
  | zero =>
      have finished := hasEnded_of_distance (Nat.le_zero.mp enough)
      rw [runFor_of_hasEnded finished, runFor_of_hasEnded finished]
  | succ fuel ih =>
      by_cases finished : publish.HasEnded
      · rw [runFor_of_hasEnded finished, runFor_of_hasEnded finished]
      · have nearer := distance_advance finished files
        cases more with
        | zero => exact absurd (hasEnded_of_distance (Nat.le_zero.mp also)) finished
        | succ more =>
            rw [runFor_succ, runFor_succ]
            exact ih (by omega) (by omega)

def final (files : Files) (publish : Publish) : Files × Publish :=
  runFor (distance publish.stage) files publish

theorem hasEnded_final (files : Files) (publish : Publish) : (publish.final files).2.HasEnded := by
  have ends : ∀ fuel files publish, distance publish.stage ≤ fuel →
      (runFor fuel files publish).2.HasEnded := by
    intro fuel
    induction fuel with
    | zero => exact fun files publish near => hasEnded_of_distance (Nat.le_zero.mp near)
    | succ fuel ih =>
        intro files publish near
        by_cases finished : publish.HasEnded
        · rw [runFor_of_hasEnded finished]
          exact finished
        · have nearer := distance_advance finished files
          rw [runFor_succ]
          exact ih (publish.advance files).1 (publish.advance files).2 (by omega)
  exact ends _ files publish (Nat.le_refl _)

theorem final_of_hasEnded {publish : Publish} (finished : publish.HasEnded) (files : Files) :
    final files publish = (files, publish) :=
  runFor_of_hasEnded finished _ files

theorem final_advance {publish : Publish} (going : ¬ publish.HasEnded) (files : Files) :
    final (publish.advance files).1 (publish.advance files).2 = final files publish := by
  have nearer := distance_advance going files
  cases left : distance publish.stage with
  | zero => exact absurd (hasEnded_of_distance left) going
  | succ left =>
      rw [final, final, left]
      exact runFor_eq_of_le (Nat.le_refl _) (by omega)

theorem stage_of_answer {publish : Publish} (answered : publish.answer = .ok ()) :
    publish.stage = .ended (.ok ()) := by
  rw [answer] at answered
  split at answered
  next answer here => rw [here, answered]
  next => cases answered

theorem faithful_final {files : Files} {publish : Publish} (faithful : Faithful files publish) :
    Faithful (publish.final files).1 (publish.final files).2 ∧
      (publish.final files).2.path = publish.path ∧
      (publish.final files).2.text = publish.text := by
  have runs : ∀ fuel, Faithful (runFor fuel files publish).1 (runFor fuel files publish).2 ∧
      (runFor fuel files publish).2.path = publish.path ∧
      (runFor fuel files publish).2.text = publish.text := by
    intro fuel
    induction fuel generalizing files publish with
    | zero => exact ⟨faithful, rfl, rfl⟩
    | succ fuel ih =>
        obtain ⟨later, path, text⟩ := ih (faithful_advance faithful)
        rw [runFor_succ]
        exact ⟨later, path.trans (advance_path files publish),
          text.trans (advance_text files publish)⟩
  exact runs _

end RoleGrants.Publish

namespace RoleGrants

theorem publish_eq {compiled : Compiled} (some_ : compiled.isEmpty = false) (files : Files)
    (path : PathName) :
    publish files path compiled =
      ((Publish.final files { path := path, text := compiled.render }).1,
        (Publish.final files { path := path, text := compiled.render }).2.answer) := by
  rw [publish, some_]
  rfl

theorem readText_of_published {files : Files} {path : PathName} {compiled : Compiled}
    (published : (publish files path compiled).2 = .ok ()) :
    (publish files path compiled).1.readText path = .ok compiled.render := by
  cases some_ : compiled.isEmpty with
  | true =>
      rw [publish, if_pos some_] at published
      cases published
  | false =>
      rw [publish_eq some_] at published ⊢
      have begun : Publish.Faithful files { path := path, text := compiled.render } := trivial
      obtain ⟨faithful, own, text⟩ := Publish.faithful_final begun
      rw [Publish.Faithful, Publish.stage_of_answer published, own, text] at faithful
      exact faithful

end RoleGrants
