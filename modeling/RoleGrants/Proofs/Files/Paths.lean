import Mathlib.Data.List.Nodup
import Mathlib.Data.List.Perm.Subperm
import RoleGrants.Files.Tree
import RoleGrants.Proofs.Store.Rows
import RoleGrants.Proofs.Text.Pieces

/-! # Where paths lead

A path keeps leading to the same place as long as the folders on its way stay
folders (`follow_of_folders`).  An operation on a path changes no place of another
name than the last of the path, and a file that is moved onto a path is what the
path reads afterwards (`readText_moveFile`). -/

set_option autoImplicit false

namespace RoleGrants

theorem bind_eq_ok {ε α β : Type} {first : Except ε α} {next : α → Except ε β} {result : β}
    (ran : (first >>= next) = .ok result) :
    ∃ value, first = .ok value ∧ next value = .ok result := by
  cases first with
  | error refusal => cases ran
  | ok value => exact ⟨value, rfl, ran⟩

theorem bind_eq_error {ε α β : Type} {first : Except ε α} {next : α → Except ε β} {cause : ε}
    (failed : (first >>= next) = .error cause) :
    first = .error cause ∨ ∃ value, first = .ok value ∧ next value = .error cause := by
  cases first with
  | error refusal =>
      cases failed
      exact .inl rfl
  | ok value => exact .inr ⟨value, rfl, failed⟩

theorem ok_of_toOption {ε α : Type} {answer : Except ε α} {value : α}
    (given : answer.toOption = some value) : answer = .ok value := by
  cases answer with
  | error refusal => cases given
  | ok other =>
      cases given
      rfl

namespace Place

theorem child_ne_root (place : Place) (name : String) : place.child name ≠ .root := by
  intro same
  have keys := congrArg (fun place => place.key.toList) same
  simp [child, root] at keys

theorem name_of_child {first second : Place} {name other : String} (plain : '/' ∉ name.toList)
    (plainOther : '/' ∉ other.toList) (same : first.child name = second.child other) :
    name = other := by
  have folders : first = second := by
    rw [← above_child first name plain, ← above_child second other plainOther, same]
  have keys := congrArg (fun place => place.key.toList) same
  simp only [child, String.toList_append, folders, List.append_cancel_left_eq] at keys
  exact String.toList_inj.mp keys

end Place

namespace Files

/-! ## Places -/

theorem at?_put (files : Files) {place : Place} (below : place ≠ .root) (node : Node)
    (other : Place) :
    (files.put place node).at? other = if other = place then some node else files.at? other := by
  have keys : other.key = place.key ↔ other = place :=
    ⟨fun same => by cases other; cases place; cases same; rfl, fun same => by rw [same]⟩
  rw [at?, at?, put, Table.get?_insert]
  by_cases same : other = place
  · rw [if_neg (same ▸ below), if_pos (keys.mpr same), if_pos same]
  · rw [if_neg (fun equal => same (keys.mp equal)), if_neg same]

theorem at?_drop (files : Files) {place : Place} (below : place ≠ .root) (other : Place) :
    (files.drop place).at? other = if other = place then none else files.at? other := by
  have keys : other.key = place.key ↔ other = place :=
    ⟨fun same => by cases other; cases place; cases same; rfl, fun same => by rw [same]⟩
  rw [at?, at?, drop, Table.get?_erase]
  by_cases same : other = place
  · rw [if_neg (same ▸ below), if_pos (keys.mpr same), if_pos same]
  · rw [if_neg (fun equal => same (keys.mp equal)), if_neg same]

theorem at?_put_of_ne {files : Files} {place other : Place} (below : place ≠ .root) (node : Node)
    (apart : other ≠ place) : (files.put place node).at? other = files.at? other := by
  rw [at?_put _ below, if_neg apart]

theorem at?_drop_of_ne {files : Files} {place other : Place} (below : place ≠ .root)
    (apart : other ≠ place) : (files.drop place).at? other = files.at? other := by
  rw [at?_drop _ below, if_neg apart]

theorem folder_put {files : Files} {place other : Place} (below : place ≠ .root)
    (free : files.at? place ≠ some .folder) (node : Node)
    (isFolder : files.at? other = some .folder) :
    (files.put place node).at? other = some .folder := by
  rw [at?_put_of_ne below]
  · exact isFolder
  · rintro rfl
    exact free isFolder

theorem folder_drop {files : Files} {place other : Place} (below : place ≠ .root)
    (free : files.at? place ≠ some .folder) (isFolder : files.at? other = some .folder) :
    (files.drop place).at? other = some .folder := by
  rw [at?_drop_of_ne below]
  · exact isFolder
  · rintro rfl
    exact free isFolder

theorem at?_of_enter {files : Files} {place : Place} (entered : files.enter place = .ok ()) :
    files.at? place = some .folder := by
  rw [enter] at entered
  split at entered
  · cases entered
  · cases entered
  next found => exact found

theorem enter_of_at? {files : Files} {place : Place} (found : files.at? place = some .folder) :
    files.enter place = .ok () := by
  rw [enter, found]

theorem key_numbered_inj {folder : Place} {first second : Nat}
    (same : (folder.child (".staged" ++ toString first)).key =
      (folder.child (".staged" ++ toString second)).key) : first = second := by
  simp only [Place.child, ← String.toList_inj, String.toList_append, List.append_assoc,
    List.append_cancel_left_eq, Nat.toString_eq_repr, Nat.toList_repr] at same
  have numbers := congrArg (fun digits => Nat.ofDigitChars 10 digits 0) same
  simpa only [Nat.ofDigitChars_ten_toDigits] using numbers

/-- There are more numbered names than entries, so one of them is free. -/
theorem exists_freshName (files : Files) (folder : Place) :
    ∃ number : Nat, files.freshName folder = ".staged" ++ toString number ∧
      files.at? (folder.child (files.freshName folder)) = none := by
  rw [freshName]
  generalize candidates : (List.range (files.nodes.size + 1)).map
    (fun number => ".staged" ++ toString number) = names
  cases found : names.find? fun name => (files.at? (folder.child name)).isNone with
  | some name =>
      have member := List.mem_of_find?_eq_some found
      rw [← candidates] at member
      obtain ⟨number, _, rfl⟩ := List.mem_map.mp member
      have free := List.find?_some found
      exact ⟨number, rfl, Option.isNone_iff_eq_none.mp free⟩
  | none =>
      exfalso
      let key (number : Nat) := (folder.child (".staged" ++ toString number)).key
      have apart : ((List.range (files.nodes.size + 1)).map key).Nodup :=
        List.nodup_range.map fun _ _ same => key_numbered_inj same
      have taken : (List.range (files.nodes.size + 1)).map key ⊆
          files.nodes.rows.map Prod.fst := by
        intro _ member
        obtain ⟨number, inside, rfl⟩ := List.mem_map.mp member
        have named : ".staged" ++ toString number ∈ names := by
          rw [← candidates]
          exact List.mem_map.mpr ⟨number, inside, rfl⟩
        have held := List.find?_eq_none.mp found _ named
        rw [Option.isNone_iff_eq_none, at?, if_neg (folder.child_ne_root _)] at held
        obtain ⟨node, stored⟩ := Option.ne_none_iff_exists'.mp held
        exact List.mem_map.mpr ⟨_, (files.nodes.mem_rows _ _).mpr stored, rfl⟩
      have fewer := (List.subperm_of_subset apart taken).length_le
      rw [List.length_map, List.length_range, List.length_map] at fewer
      exact Nat.not_succ_le_self _ fewer

/-! ## Paths -/

def turn (place : Place) : PathName.Piece → Except OsError Place
  | .root => .ok place
  | .here => .ok place
  | .up => .ok place.above
  | .name name => if nameFits name then .ok (place.child name) else .error .nameTooLong

theorem follow_cons (files : Files) (place : Place) (piece : PathName.Piece)
    (rest : List PathName.Piece) :
    files.follow place (piece :: rest) =
      (files.enter place).bind fun _ =>
        (turn place piece).bind fun next => files.follow next rest := by
  rw [follow.eq_def]
  cases entered : files.enter place with
  | error refusal => simp only [entered, Except.bind]
  | ok _ =>
      simp only [entered, Except.bind]
      cases piece with
      | name name =>
          by_cases fits : nameFits name = true
          · simp only [turn, if_pos fits]
          · simp only [turn, if_neg fits]
      | _ => rfl

theorem follow_of_folders {files after : Files}
    (kept : ∀ place, files.at? place = some .folder → after.at? place = some .folder)
    {place final : Place} {pieces : List PathName.Piece}
    (led : files.follow place pieces = .ok final) : after.follow place pieces = .ok final := by
  induction pieces generalizing place with
  | nil => exact led
  | cons piece rest ih =>
      rw [follow_cons] at led
      obtain ⟨_, entered, led⟩ := bind_eq_ok led
      obtain ⟨next, turned, led⟩ := bind_eq_ok led
      rw [follow_cons, enter_of_at? (kept place (at?_of_enter entered)), turned]
      exact ih led

theorem follow_append (files : Files) (place : Place) (front back : List PathName.Piece) :
    files.follow place (front ++ back) =
      (files.follow place front).bind fun middle => files.follow middle back := by
  induction front generalizing place with
  | nil => rfl
  | cons piece rest ih =>
      rw [List.cons_append, follow_cons, follow_cons]
      cases files.enter place with
      | error refusal => rfl
      | ok _ =>
          simp only [Except.bind]
          cases turn place piece with
          | error refusal => rfl
          | ok next => exact ih next

theorem checked_eq {path other : PathName} (fine : checked path = .ok other) : other = path := by
  rw [checked] at fine
  split at fine
  · cases fine
  · split at fine
    · cases fine
    · split at fine
      · cases fine
      · cases fine
        rfl

theorem of_target {files : Files} {path : PathName} {folder : Place} {name : String}
    (found : files.target path = .ok (folder, some (.name name))) :
    checked path = .ok path ∧ (steps path).getLast? = some (.name name) ∧
      files.follow (files.start path) (steps path).dropLast = .ok folder ∧
      files.at? folder = some .folder ∧ nameFits name = true := by
  obtain ⟨same, fine, found⟩ := bind_eq_ok found
  cases checked_eq fine
  obtain ⟨place, led, found⟩ := bind_eq_ok found
  obtain ⟨_, entered, found⟩ := bind_eq_ok found
  cases last : (steps path).getLast? with
  | none =>
      rw [last] at found
      cases found
  | some piece =>
      rw [last] at found
      cases piece with
      | name text =>
          simp only at found
          split at found
          next fits =>
            cases found
            exact ⟨fine, rfl, led, at?_of_enter entered, fits⟩
          · cases found
      | _ => cases found

theorem follow_steps {files : Files} {path : PathName} {folder : Place} {name : String}
    (last : (steps path).getLast? = some (.name name))
    (led : files.follow (files.start path) (steps path).dropLast = .ok folder)
    (entered : files.at? folder = some .folder) (fits : nameFits name = true) :
    files.follow (files.start path) (steps path) = .ok (folder.child name) := by
  have turned : turn folder (.name name) = .ok (folder.child name) := if_pos fits
  obtain ⟨front, parted⟩ := List.getLast?_eq_some_iff.mp last
  rw [parted, List.dropLast_concat] at led
  rw [parted, follow_append, led]
  simp only [Except.bind, follow_cons, enter_of_at? entered, turned]
  rfl

theorem child_of_locate {files : Files} {path : PathName} {place : Place} {name : String}
    (last : (steps path).getLast? = some (.name name)) (found : files.locate path = .ok place) :
    ∃ folder : Place, place = folder.child name := by
  obtain ⟨same, fine, found⟩ := bind_eq_ok found
  cases checked_eq fine
  obtain ⟨final, led, found⟩ := bind_eq_ok found
  have arrived : place = final := by
    split at found
    · obtain ⟨_, _, found⟩ := bind_eq_ok found
      cases found
      rfl
    · cases found
      rfl
  obtain ⟨front, parted⟩ := List.getLast?_eq_some_iff.mp last
  rw [parted, follow_append] at led
  obtain ⟨folder, _, led⟩ := bind_eq_ok led
  rw [follow_cons] at led
  obtain ⟨_, _, led⟩ := bind_eq_ok led
  obtain ⟨next, turned, led⟩ := bind_eq_ok led
  cases led
  rw [turn] at turned
  split at turned
  · cases turned
    exact ⟨folder, arrived⟩
  · cases turned

/-! ## Last names -/

theorem getLast?_steps_append (before : List (List Char)) {path : PathName} {name : String}
    (ending : Text.splitAt '/' path.toList = before ++ [name.toList])
    (real : name ≠ "" ∧ name ≠ "." ∧ name ≠ "..") :
    (steps path).getLast? = some (.name name) := by
  obtain ⟨some_, here, up⟩ := real
  simp only [steps, Text.pieces, ending, List.map_append, List.map_cons, List.map_nil,
    String.ofList_toList, List.filterMap_append, List.filterMap_cons, List.filterMap_nil,
    if_neg some_, if_neg here, if_neg up, List.getLast?_concat]

theorem getLast?_steps_join (base : PathName) {name : String} (plain : '/' ∉ name.toList)
    (real : name ≠ "" ∧ name ≠ "." ∧ name ≠ "..") :
    (steps (PathName.join base name)).getLast? = some (.name name) := by
  have alone := Text.splitAt_of_notMem plain
  rw [PathName.join]
  split
  · exact getLast?_steps_append [] alone real
  · split
    · exact getLast?_steps_append [] alone real
    · split
      next slash =>
        obtain ⟨front, parted⟩ := List.getLast?_eq_some_iff.mp slash
        refine getLast?_steps_append (Text.splitAt '/' front) ?_ real
        rw [String.toList_append, parted, List.append_assoc, List.singleton_append,
          Text.splitAt_append, alone]
      · refine getLast?_steps_append (Text.splitAt '/' base.toList) ?_ real
        have characters : (base ++ "/" ++ name).toList =
            base.toList ++ '/' :: name.toList := by simp
        rw [characters, Text.splitAt_append, alone]

theorem getLast?_steps_withFileName (path : PathName) {name : String}
    (plain : '/' ∉ name.toList) (real : name ≠ "" ∧ name ≠ "." ∧ name ≠ "..") :
    (steps (path.withFileName name)).getLast? = some (.name name) := by
  rw [PathName.withFileName]
  split
  · exact getLast?_steps_join _ plain real
  · exact getLast?_steps_join _ plain real

theorem mem_pieces_of_mem_placed {pieces : List (List Char)} {start finish : Nat} {name : String}
    (member : (PathName.Piece.name name, finish) ∈ PathName.placed pieces start) :
    name.toList ∈ pieces := by
  induction pieces generalizing start with
  | nil => cases member
  | cons piece rest ih =>
      have later : ∀ {next : Nat}, (PathName.Piece.name name, finish) ∈ PathName.placed rest next →
          name.toList ∈ piece :: rest := fun behind => List.mem_cons_of_mem _ (ih behind)
      rw [PathName.placed] at member
      split at member
      · exact later member
      · split at member
        · split at member
          · simp only [List.mem_cons, Prod.mk.injEq, reduceCtorEq, false_and, false_or] at member
            exact later member
          · exact later member
        · split at member
          · simp only [List.mem_cons, Prod.mk.injEq, reduceCtorEq, false_and, false_or] at member
            exact later member
          · simp only [List.mem_cons, Prod.mk.injEq, PathName.Piece.name.injEq] at member
            rcases member with ⟨rfl, _⟩ | behind
            · simp
            · exact later behind

theorem slash_notMem_fileName {path : PathName} {last : String}
    (named : path.fileName? = some last) : '/' ∉ last.toList := by
  rw [PathName.fileName?] at named
  split at named
  next other finish found =>
    cases named
    have member := List.mem_of_getLast? found
    rw [PathName.pieces] at member
    have inner : (PathName.Piece.name last, finish) ∈
        PathName.placed (Text.splitAt '/' path.toList) 0 := by
      split at member
      · simpa using member
      · exact member
    exact Text.separator_notMem (mem_pieces_of_mem_placed inner)
  · cases named

/-! ## Operations -/

variable {files after : Files} {path : PathName} {name : String} {place : Place}

theorem at?_removeFile (last : (steps path).getLast? = some (.name name))
    (removed : files.removeFile path = .ok after)
    (apart : ∀ folder : Place, place ≠ folder.child name) : after.at? place = files.at? place := by
  obtain ⟨⟨folder, piece⟩, found, removed⟩ := bind_eq_ok removed
  simp only at removed
  split at removed
  next folder' other same =>
    cases same
    have ending := (of_target found).2.1
    rw [last] at ending
    cases ending
    split at removed
    · cases removed
    · cases removed
    · split at removed
      · cases removed
      · cases removed
        rw [at?_drop _ (folder.child_ne_root name), if_neg (apart folder)]
  · cases removed

theorem at?_writeText {text : String} (last : (steps path).getLast? = some (.name name))
    (written : files.writeText path text = .ok after)
    (apart : ∀ folder : Place, place ≠ folder.child name) : after.at? place = files.at? place := by
  obtain ⟨⟨folder, piece⟩, found, written⟩ := bind_eq_ok written
  simp only at written
  split at written
  next folder' other same =>
    cases same
    have ending := (of_target found).2.1
    rw [last] at ending
    cases ending
    split at written
    · cases written
    · split at written
      · cases written
      · cases written
        rw [at?_put _ (folder.child_ne_root name), if_neg (apart folder)]
    · split at written
      · cases written
      · cases written
        rw [at?_put _ (folder.child_ne_root name), if_neg (apart folder)]
  · cases written

theorem at?_copyFile {source : PathName} (last : (steps path).getLast? = some (.name name))
    (copied : files.copyFile source path = .ok after)
    (apart : ∀ folder : Place, place ≠ folder.child name) : after.at? place = files.at? place := by
  obtain ⟨node, _, copied⟩ := bind_eq_ok copied
  cases node with
  | folder => cases copied
  | file text readOnly =>
      obtain ⟨written, wrote, copied⟩ := bind_eq_ok copied
      obtain ⟨copy, led, copied⟩ := bind_eq_ok copied
      cases copied
      obtain ⟨folder, rfl⟩ := child_of_locate last led
      rw [at?_put _ (folder.child_ne_root name), if_neg (apart folder)]
      exact at?_writeText last wrote apart

/-- Where a file may land there is no folder, and the path reads what is put there. -/
theorem of_landing {destination : Place} (found : files.landing path = .ok destination) :
    destination ≠ .root ∧ files.at? destination ≠ some .folder ∧
      ∀ after : Files, after.working = files.working →
        (∀ place, files.at? place = some .folder → after.at? place = some .folder) →
        after.locate path = .ok destination := by
  obtain ⟨⟨folder, piece⟩, aimed, found⟩ := bind_eq_ok found
  simp only at found
  split at found
  next folder' name same =>
    cases same
    obtain ⟨fine, last, led, entered, fits⟩ := of_target aimed
    split at found
    · cases found
    next unended =>
      split at found
      · cases found
      next empty =>
        cases found
        refine ⟨folder.child_ne_root name, empty, ?_⟩
        intro after working kept
        have start : after.start path = files.start path := by rw [start, start, working]
        have arrives : after.follow (after.start path) (steps path) = .ok (folder.child name) :=
          follow_steps last (start ▸ follow_of_folders kept led) (kept folder entered) fits
        rw [locate, fine]
        simp only [bind, Except.bind, arrives, if_neg unended]
  · cases found

theorem readText_moveFile {text : String} {readOnly : Bool} (below : place ≠ .root)
    (found : files.at? place = some (.file text readOnly))
    (moved : files.moveFile place path = .ok after) : after.readText path = .ok text := by
  rw [moveFile, found] at moved
  simp only at moved
  split at moved
  next destination landed =>
    cases moved
    obtain ⟨low, free, leads⟩ := of_landing landed
    have located := leads ((files.drop place).put destination (.file text readOnly)) rfl (by
      intro other isFolder
      rw [at?_put _ low, if_neg, at?_drop _ below, if_neg]
      · exact isFolder
      · rintro rfl
        rw [found] at isFolder
        cases isFolder
      · rintro rfl
        exact free isFolder)
    have there : ((files.drop place).put destination (.file text readOnly)).at? destination =
        some (.file text readOnly) := by
      rw [at?_put _ low, if_pos rfl]
    simp only [readText, status, located, there, bind, Except.bind]
  · cases moved

end Files
end RoleGrants
