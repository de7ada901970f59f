import RoleGrants.Proofs.Files.Aims

/-! # Trees that grow

Making folders takes nothing away (`Extends`).  Every operation leaves whatever is anywhere
in a folder, and in such a tree something that is at the place of a path without a step up
is found by it (`IsRooted.status_ne_notFound`). -/

set_option autoImplicit false

namespace RoleGrants

namespace Place

theorem eq_or_child_of_child {place folder : Place} {name last : String}
    (plain : '/' ∉ last.toList) (same : place.child name = folder.child last) :
    place = folder ∨ ∃ rest, folder = place.child rest := by
  have keys : place.key.toList ++ '/' :: name.toList = folder.key.toList ++ '/' :: last.toList := by
    have lists := congrArg (fun place => place.key.toList) same
    simp only [child, String.toList_append, List.append_assoc] at lists
    exact lists
  rcases List.append_eq_append_iff.mp keys with ⟨front, parted, behind⟩ | ⟨front, parted, behind⟩
  · cases front with
    | nil =>
        left
        rw [List.append_nil] at parted
        exact congrArg Place.mk (String.toList_inj.mp parted.symm)
    | cons first rest =>
        right
        obtain ⟨rfl, _⟩ := List.cons.inj behind
        refine ⟨String.ofList rest, congrArg Place.mk (String.toList_inj.mp ?_)⟩
        simp [parted]
  · cases front with
    | nil =>
        left
        rw [List.append_nil] at parted
        exact congrArg Place.mk (String.toList_inj.mp parted)
    | cons first rest =>
        -- then a slash is in the last name
        have inside : last.toList = rest ++ '/' :: name.toList := (List.cons.inj behind).2
        rw [inside] at plain
        simp at plain

end Place

namespace Files

variable {files after : Files} {path : PathName} {place folder : Place} {name : String}

/-! ## What is added -/

/-- Folders have been made where nothing was. -/
structure Extends (files after : Files) : Prop where
  working : after.working = files.working
  places : ∀ place, after.at? place = files.at? place ∨
    files.at? place = none ∧ after.at? place = some .folder

namespace Extends

variable {later : Files}

theorem refl (files : Files) : Extends files files :=
  ⟨rfl, fun _ => .inl rfl⟩

theorem trans (first : Extends files after) (second : Extends after later) :
    Extends files later := by
  refine ⟨second.working.trans first.working, fun place => ?_⟩
  rcases second.places place with same | ⟨nothing, isFolder⟩
  · rw [same]
    exact first.places place
  · rcases first.places place with same | ⟨_, already⟩
    · exact .inr ⟨same ▸ nothing, isFolder⟩
    · rw [nothing] at already
      cases already

theorem held (more : Extends files after) (some_ : files.at? place ≠ none) :
    after.at? place = files.at? place :=
  (more.places place).resolve_right fun new => some_ new.1

theorem folders (more : Extends files after) (isFolder : files.at? place = some .folder) :
    after.at? place = some .folder := by
  rw [more.held (by simp [isFolder])]
  exact isFolder

end Extends

theorem extends_of_makeFolder (made : files.makeFolder path = .ok after) :
    Extends files after := by
  obtain ⟨low, absent, rfl⟩ := of_makeFolder made
  refine ⟨rfl, fun place => ?_⟩
  rw [at?_put _ low]
  split
  next same => exact .inr ⟨same ▸ absent, rfl⟩
  · exact .inl rfl

/-- What making one folder keeps, making all the folders on a way keeps. -/
theorem makeFolders_induction {motive : Files → Prop}
    (one : ∀ {files after path}, motive files → Files.makeFolder files path = .ok after →
      motive after)
    (fuel : Nat) (first : motive files) : motive (files.makeFolders fuel path).1 := by
  induction fuel generalizing path with
  | zero => exact first
  | succ fuel ih =>
      rw [makeFolders]
      split
      · exact first
      · split
        next made done => exact one first done
        · split
          · exact first
          next parent _ =>
            have above : motive (files.makeFolders fuel parent).1 := ih
            split
            next middle refusal same =>
              rw [same] at above
              exact above
            next middle same =>
              rw [same] at above
              split
              next made done => exact one above done
              · exact above
        · exact first

theorem extends_createFolders (files : Files) (path : PathName) :
    Extends files (files.createFolders path).1 :=
  makeFolders_induction (fun more made => more.trans (extends_of_makeFolder made)) _ (.refl files)

theorem isFolder_eq : files.isFolder path = true ↔ files.status path = .ok .folder := by
  rw [isFolder]
  split
  next found => exact ⟨fun _ => found, fun _ => rfl⟩
  next other => exact ⟨by simp, fun found => absurd found other⟩

theorem locate_of_target (found : files.target path = .ok (folder, some (.name name)))
    (unended : endsInSlash path = true → files.at? (files.aim path) = some .folder) :
    files.locate path = .ok (files.aim path) := by
  obtain ⟨fine, last, led, entered, fits⟩ := of_target found
  have arrives := follow_steps last led entered fits
  rw [aim_of_target found] at arrives
  exact locate_eq_ok_iff.mpr ⟨fine, arrives, unended⟩

theorem exists_target_of_makeFolder (made : files.makeFolder path = .ok after) :
    ∃ folder name, files.target path = .ok (folder, some (.name name)) := by
  obtain ⟨⟨folder, piece⟩, found, made⟩ := bind_eq_ok made
  simp only at made
  split at made
  next folder' name same =>
    cases same
    exact ⟨folder, name, found⟩
  · cases made

theorem exists_target_of_removeFile (removed : files.removeFile path = .ok after) :
    ∃ folder name, files.target path = .ok (folder, some (.name name)) := by
  obtain ⟨⟨folder, piece⟩, found, removed⟩ := bind_eq_ok removed
  simp only at removed
  split at removed
  next folder' name same =>
    cases same
    exact ⟨folder, name, found⟩
  · cases removed

theorem exists_target_of_writeText {text : String}
    (written : files.writeText path text = .ok after) :
    ∃ folder name, files.target path = .ok (folder, some (.name name)) := by
  obtain ⟨⟨folder, piece⟩, found, written⟩ := bind_eq_ok written
  simp only at written
  split at written
  next folder' name same =>
    cases same
    exact ⟨folder, name, found⟩
  · cases written

theorem exists_target_of_moveFile {text : String} {readOnly : Bool}
    (held : files.at? place = some (.file text readOnly))
    (moved : files.moveFile place path = .ok after) :
    ∃ folder name, files.target path = .ok (folder, some (.name name)) := by
  rw [moveFile, held] at moved
  simp only at moved
  split at moved
  next destination landed =>
    obtain ⟨⟨folder, piece⟩, found, landed⟩ := bind_eq_ok landed
    simp only at landed
    split at landed
    next folder' name same =>
      cases same
      exact ⟨folder, name, found⟩
    · cases landed
  · cases moved

theorem status_of_makeFolder (made : files.makeFolder path = .ok after) :
    after.status path = .ok .folder := by
  obtain ⟨folder, name, found⟩ := exists_target_of_makeFolder made
  have more := extends_of_makeFolder made
  obtain ⟨low, _, rfl⟩ := of_makeFolder made
  have there : (files.put (files.aim path) .folder).at? (files.aim path) = some .folder := by
    rw [at?_put _ low, if_pos rfl]
  have again := target_of_folders more.working (fun _ => more.folders) found
  rw [status_eq_ok_iff, aim_of_working more.working]
  refine ⟨?_, there⟩
  rw [locate_of_target again fun _ => ?_, aim_of_working more.working]
  rw [aim_of_working more.working]
  exact there

theorem isFolder_of_settled {refusal : OsError}
    (settled : files.settleFolder path refusal = (after, .ok ())) : after.status path = .ok .folder := by
  rw [settleFolder] at settled
  obtain ⟨rfl, answer⟩ := Prod.mk.inj settled
  split at answer
  next isFolder => exact isFolder_eq.mp isFolder
  · cases answer

theorem status_of_createFolders (some_ : path ≠ "")
    (made : files.createFolders path = (after, .ok ())) : after.status path = .ok .folder := by
  rw [createFolders, makeFolders, if_neg some_] at made
  split at made
  next done =>
    cases made
    exact status_of_makeFolder done
  · split at made
    · cases made
    · split at made
      · cases made
      · split at made
        next done =>
          cases made
          exact status_of_makeFolder done
        · exact isFolder_of_settled made
  · exact isFolder_of_settled made

/-! ## What is in folders -/

theorem plain_of_step (last : (steps path).getLast? = some (.name name)) : '/' ∉ name.toList := by
  have member := List.mem_of_getLast? last
  rw [steps_eq, List.mem_filterMap] at member
  obtain ⟨characters, inside, stepped⟩ := member
  rw [stepOf?] at stepped
  split at stepped
  · cases stepped
  · split at stepped
    · cases stepped
    · split at stepped
      · cases stepped
      · cases stepped
        rw [String.toList_ofList]
        exact Text.separator_notMem inside

namespace IsRooted

theorem put (rooted : files.IsRooted) (low : place ≠ .root) {node : Node}
    (way : ∀ upper name, place = upper.child name → files.at? upper = some .folder)
    (free : node = .folder ∨ files.at? place ≠ some .folder) : (files.put place node).IsRooted := by
  intro upper name held
  have isFolder : files.at? upper = some .folder := by
    rw [at?_put _ low] at held
    split at held
    next same => exact way upper name same.symm
    · exact rooted upper name held
  rw [at?_put _ low]
  split
  next same =>
    rcases free with rfl | other
    · rfl
    · exact absurd (same ▸ isFolder) other
  · exact isFolder

theorem put_child (rooted : files.IsRooted) (isFolder : files.at? folder = some .folder)
    (plain : '/' ∉ name.toList) {node : Node}
    (free : node = .folder ∨ files.at? (folder.child name) ≠ some .folder) :
    (files.put (folder.child name) node).IsRooted := by
  refine rooted.put (folder.child_ne_root name) ?_ free
  intro upper other same
  rcases Place.eq_or_child_of_child plain same.symm with rfl | ⟨rest, rfl⟩
  · exact isFolder
  · exact rooted upper rest (by simp [isFolder])

theorem put_over (rooted : files.IsRooted) (low : place ≠ .root) {node : Node}
    (held : files.at? place ≠ none) (free : files.at? place ≠ some .folder) :
    (files.put place node).IsRooted := by
  refine rooted.put low ?_ (.inr free)
  rintro upper name rfl
  exact rooted upper name held

theorem drop (rooted : files.IsRooted) (low : place ≠ .root)
    (free : files.at? place ≠ some .folder) : (files.drop place).IsRooted := by
  intro upper name held
  rw [at?_drop _ low] at held
  split at held
  · exact absurd rfl held
  · exact folder_drop low free (rooted upper name held)

theorem makeFolder (rooted : files.IsRooted) (made : files.makeFolder path = .ok after) :
    after.IsRooted := by
  obtain ⟨folder, name, found⟩ := exists_target_of_makeFolder made
  obtain ⟨_, last, _, isFolder, _⟩ := of_target found
  obtain ⟨_, _, rfl⟩ := of_makeFolder made
  rw [← aim_of_target found]
  exact rooted.put_child isFolder (plain_of_step last) (.inl rfl)

theorem createFolders (rooted : files.IsRooted) (path : PathName) :
    (files.createFolders path).1.IsRooted :=
  makeFolders_induction (fun rooted made => rooted.makeFolder made) _ rooted

theorem removeFile (rooted : files.IsRooted) (removed : files.removeFile path = .ok after) :
    after.IsRooted := by
  obtain ⟨low, free, rfl⟩ := of_removeFile removed
  exact rooted.drop low free

theorem writeText (rooted : files.IsRooted) {text : String}
    (written : files.writeText path text = .ok after) : after.IsRooted := by
  obtain ⟨folder, name, found⟩ := exists_target_of_writeText written
  obtain ⟨_, last, _, isFolder, _⟩ := of_target found
  obtain ⟨_, free, mark, rfl⟩ := of_writeText written
  rw [← aim_of_target found] at free ⊢
  exact rooted.put_child isFolder (plain_of_step last) (.inr free)

theorem copyFile (rooted : files.IsRooted) {source : PathName}
    (copied : files.copyFile source path = .ok after) : after.IsRooted := by
  obtain ⟨node, _, copied⟩ := bind_eq_ok copied
  cases node with
  | folder => cases copied
  | file text readOnly =>
      obtain ⟨written, wrote, copied⟩ := bind_eq_ok copied
      obtain ⟨place, led, copied⟩ := bind_eq_ok copied
      cases copied
      have whole := rooted.writeText wrote
      obtain ⟨low, _, mark, rfl⟩ := of_writeText wrote
      have own : place = files.aim path := (aim_of_locate led).trans (aim_of_working rfl path)
      have there : (files.put (files.aim path) (.file text mark)).at? place =
          some (.file text mark) := by
        rw [own, at?_put _ low, if_pos rfl]
      refine whole.put_over (own ▸ low) ?_ ?_
      · simp [there]
      · simp [there]

theorem moveFile (rooted : files.IsRooted) (low : place ≠ .root) {text : String} {readOnly : Bool}
    (held : files.at? place = some (.file text readOnly))
    (moved : files.moveFile place path = .ok after) : after.IsRooted := by
  have free : files.at? place ≠ some .folder := by simp [held]
  obtain ⟨folder, name, found⟩ := exists_target_of_moveFile held moved
  obtain ⟨_, last, _, isFolder, _⟩ := of_target found
  obtain ⟨_, other, rfl, _⟩ := of_moveFile held moved
  rw [← aim_of_target found] at other ⊢
  refine (rooted.drop low free).put_child (folder_drop low free isFolder) (plain_of_step last)
    (.inr ?_)
  rw [at?_drop _ low]
  split
  · simp
  · exact other

theorem enter_ne_notFound (held : files.at? place ≠ none) :
    files.enter place ≠ .error .notFound := by
  rw [enter]
  split
  next nothing => exact absurd nothing held
  · simp
  · simp

/-- What is at the place of a path without a step up is not missed. -/
theorem status_ne_notFound (rooted : files.IsRooted) (down : .up ∉ steps path)
    (fine : checked path = .ok path) (held : files.at? (files.aim path) ≠ none) :
    files.status path ≠ .error .notFound := by
  have follows : ∀ (pieces : List PathName.Piece) (first : Place), .up ∉ pieces →
      pieces.foldl glide first = files.aim path → files.follow first pieces ≠ .error .notFound := by
    intro pieces
    induction pieces with
    | nil => simp [follow]
    | cons piece rest ih =>
        intro first down ending missed
        have here : files.at? first ≠ none := by
          -- Without a step up all that is passed lies above the place, and there are folders.
          rcases rooted.at?_of_descent down (ending ▸ held) with isFolder | same
          · simp [isFolder]
          · rw [← same, ending]
            exact held
        rw [follow_cons] at missed
        cases entered : files.enter first with
        | error refusal =>
            rw [entered] at missed
            cases missed
            exact enter_ne_notFound here entered
        | ok _ =>
            rw [entered] at missed
            simp only [Except.bind] at missed
            cases turned : turn first piece with
            | error refusal =>
                rw [turned] at missed
                cases missed
                rw [turn.eq_def] at turned
                split at turned
                · cases turned
                · cases turned
                · cases turned
                · split at turned
                  · cases turned
                  · cases turned
            | ok next =>
                rw [turned] at missed
                refine ih next (fun member => down (List.mem_cons_of_mem _ member)) ?_ missed
                rw [← ending, List.foldl_cons, glide_of_turn turned]
  have led := follows (steps path) (files.start path) down rfl
  intro missed
  rw [status, locate, fine] at missed
  simp only [bind, Except.bind] at missed
  cases reached : files.follow (files.start path) (steps path) with
  | error refusal =>
      rw [reached] at missed
      cases missed
      exact led reached
  | ok place =>
      have own : place = files.aim path := foldl_of_follow reached
      subst own
      rw [reached] at missed
      simp only at missed
      obtain ⟨node, found⟩ := Option.ne_none_iff_exists'.mp held
      by_cases slash : endsInSlash path = true
      · rw [if_pos slash] at missed
        cases entered : files.enter (files.aim path) with
        | error refusal =>
            rw [entered] at missed
            cases missed
            exact enter_ne_notFound held entered
        | ok _ =>
            rw [entered] at missed
            simp only [found] at missed
            cases missed
      · rw [if_neg slash] at missed
        simp only [found] at missed
        cases missed

end IsRooted

end Files
end RoleGrants
