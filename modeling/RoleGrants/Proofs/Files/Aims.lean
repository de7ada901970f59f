import Mathlib.Logic.Relation
import RoleGrants.Policy.Publish
import RoleGrants.Proofs.Files.Paths

/-! # Where paths aim

The place that a path names does not depend on what is there: a step up takes back the
name before it (`aim`).  A path that leads anywhere leads there (`aim_of_locate`), and an
operation on a path changes nothing but that place.  The path of a folder aims at another
place than a path below it, unless a step up leads back (`aim_ne_of_isAbove`). -/

set_option autoImplicit false

namespace RoleGrants

theorem Place.child_ne_self (place : Place) (name : String) : place.child name ≠ place := by
  intro same
  have lengths := congrArg (fun place => place.key.toList.length) same
  simp only [child, String.toList_append, List.length_append] at lengths
  have slash : "/".toList.length = 1 := rfl
  omega

namespace Files

/-- Where one piece of a path leads, whatever is there. -/
def glide (place : Place) : PathName.Piece → Place
  | .root => place
  | .here => place
  | .up => place.above
  | .name name => place.child name

def aim (files : Files) (path : PathName) : Place :=
  (steps path).foldl glide (files.start path)

theorem glide_of_turn {place next : Place} {piece : PathName.Piece}
    (turned : turn place piece = .ok next) : next = glide place piece := by
  cases piece with
  | name name =>
      rw [turn] at turned
      split at turned
      · exact (Except.ok.inj turned).symm
      · cases turned
  | _ => exact (Except.ok.inj turned).symm

theorem foldl_of_follow {files : Files} {place final : Place} {pieces : List PathName.Piece}
    (led : files.follow place pieces = .ok final) : final = pieces.foldl glide place := by
  induction pieces generalizing place with
  | nil => exact (Except.ok.inj led).symm
  | cons piece rest ih =>
      rw [follow_cons] at led
      obtain ⟨_, _, led⟩ := bind_eq_ok led
      obtain ⟨next, turned, led⟩ := bind_eq_ok led
      rw [List.foldl_cons, ← glide_of_turn turned]
      exact ih led

variable {files after : Files} {path : PathName} {place folder : Place} {name : String}

theorem locate_eq_ok_iff :
    files.locate path = .ok place ↔ checked path = .ok path ∧
      files.follow (files.start path) (steps path) = .ok place ∧
        (endsInSlash path = true → files.at? place = some .folder) := by
  constructor
  · intro led
    obtain ⟨same, fine, led⟩ := bind_eq_ok led
    cases checked_eq fine
    obtain ⟨final, led, ended⟩ := bind_eq_ok led
    split at ended
    next slash =>
      obtain ⟨_, entered, ended⟩ := bind_eq_ok ended
      cases ended
      exact ⟨fine, led, fun _ => at?_of_enter entered⟩
    next unended =>
      cases ended
      exact ⟨fine, led, fun slash => absurd slash unended⟩
  · rintro ⟨fine, led, ended⟩
    rw [locate, fine]
    simp only [bind, Except.bind, led]
    split
    next slash => rw [enter_of_at? (ended slash)]
    · rfl

theorem aim_of_locate (led : files.locate path = .ok place) : place = files.aim path :=
  foldl_of_follow (locate_eq_ok_iff.mp led).2.1

theorem locate_of_folders (working : after.working = files.working)
    (kept : ∀ place, files.at? place = some .folder → after.at? place = some .folder)
    (led : files.locate path = .ok place) : after.locate path = .ok place := by
  obtain ⟨fine, led, ended⟩ := locate_eq_ok_iff.mp led
  have start : after.start path = files.start path := by rw [start, start, working]
  rw [locate_eq_ok_iff, start]
  exact ⟨fine, follow_of_folders kept led, fun slash => kept place (ended slash)⟩

theorem target_of_folders {last : Option PathName.Piece} (working : after.working = files.working)
    (kept : ∀ place, files.at? place = some .folder → after.at? place = some .folder)
    (found : files.target path = .ok (folder, last)) : after.target path = .ok (folder, last) := by
  obtain ⟨_, fine, found⟩ := bind_eq_ok found
  cases checked_eq fine
  obtain ⟨upper, led, found⟩ := bind_eq_ok found
  obtain ⟨_, entered, found⟩ := bind_eq_ok found
  have start : after.start path = files.start path := by rw [start, start, working]
  have arrives : after.follow (after.start path) (steps path).dropLast = .ok upper :=
    start ▸ follow_of_folders kept led
  rw [target, fine]
  simp only [bind, Except.bind, arrives, enter_of_at? (kept _ (at?_of_enter entered))]
  exact found

theorem status_eq_ok_iff {node : Node} :
    files.status path = .ok node ↔
      files.locate path = .ok (files.aim path) ∧ files.at? (files.aim path) = some node := by
  constructor
  · intro reached
    obtain ⟨place, led, found⟩ := bind_eq_ok reached
    cases aim_of_locate led
    split at found
    next other here =>
      cases found
      exact ⟨led, here⟩
    · cases found
  · rintro ⟨led, found⟩
    rw [status, led]
    simp only [bind, Except.bind, found]

theorem aim_of_target (found : files.target path = .ok (folder, some (.name name))) :
    folder.child name = files.aim path := by
  obtain ⟨_, last, led, _, _⟩ := of_target found
  obtain ⟨front, parted⟩ := List.getLast?_eq_some_iff.mp last
  rw [parted, List.dropLast_concat] at led
  rw [aim, parted, List.foldl_append, ← foldl_of_follow led]
  rfl

theorem aim_of_working (working : after.working = files.working) (path : PathName) :
    after.aim path = files.aim path := by
  rw [aim, aim, start, start, working]

theorem status_of_folders (working : after.working = files.working)
    (kept : ∀ place, files.at? place = some .folder → after.at? place = some .folder)
    (isFolder : files.status path = .ok .folder) : after.status path = .ok .folder := by
  rw [status_eq_ok_iff] at isFolder ⊢
  rw [aim_of_working working]
  exact ⟨locate_of_folders working kept isFolder.1, kept _ isFolder.2⟩

/-! ## What an operation changes -/

theorem of_makeFolder (made : files.makeFolder path = .ok after) :
    files.aim path ≠ .root ∧ files.at? (files.aim path) = none ∧
      after = files.put (files.aim path) .folder := by
  obtain ⟨⟨folder, piece⟩, found, made⟩ := bind_eq_ok made
  simp only at made
  split at made
  next folder' name same =>
    cases same
    rw [aim_of_target found] at made
    split at made
    · cases made
    next absent =>
      cases made
      exact ⟨aim_of_target found ▸ folder.child_ne_root name, absent, rfl⟩
  · cases made

theorem of_removeFile (removed : files.removeFile path = .ok after) :
    files.aim path ≠ .root ∧ files.at? (files.aim path) ≠ some .folder ∧
      after = files.drop (files.aim path) := by
  obtain ⟨⟨folder, piece⟩, found, removed⟩ := bind_eq_ok removed
  simp only at removed
  split at removed
  next folder' name same =>
    cases same
    rw [aim_of_target found] at removed
    split at removed
    · cases removed
    · cases removed
    next text readOnly present =>
      split at removed
      · cases removed
      · cases removed
        exact ⟨aim_of_target found ▸ folder.child_ne_root name, by simp [present], rfl⟩
  · cases removed

theorem of_writeText {text : String} (written : files.writeText path text = .ok after) :
    files.aim path ≠ .root ∧ files.at? (files.aim path) ≠ some .folder ∧
      ∃ readOnly, after = files.put (files.aim path) (.file text readOnly) := by
  obtain ⟨⟨folder, piece⟩, found, written⟩ := bind_eq_ok written
  simp only at written
  split at written
  next folder' name same =>
    cases same
    have low : files.aim path ≠ .root := aim_of_target found ▸ folder.child_ne_root name
    rw [aim_of_target found] at written
    split at written
    · cases written
    next old readOnly present =>
      split at written
      · cases written
      · cases written
        exact ⟨low, by simp [present], readOnly, rfl⟩
    next absent =>
      split at written
      · cases written
      · cases written
        exact ⟨low, by simp [absent], false, rfl⟩
  · cases written

theorem of_copyFile {source : PathName} (copied : files.copyFile source path = .ok after) :
    files.aim path ≠ .root ∧ files.at? (files.aim path) ≠ some .folder ∧
      after.working = files.working ∧
      ∀ other, other ≠ files.aim path → after.at? other = files.at? other := by
  obtain ⟨node, _, copied⟩ := bind_eq_ok copied
  cases node with
  | folder => cases copied
  | file text readOnly =>
      obtain ⟨written, wrote, copied⟩ := bind_eq_ok copied
      obtain ⟨place, led, copied⟩ := bind_eq_ok copied
      cases copied
      obtain ⟨low, free, mark, rfl⟩ := of_writeText wrote
      have own : place = files.aim path := (aim_of_locate led).trans (aim_of_working rfl path)
      refine ⟨low, free, rfl, ?_⟩
      intro other apart
      rw [own, at?_put _ low, if_neg apart, at?_put _ low, if_neg apart]

/-- What is copied is a file that the path reads. -/
theorem copy_of_copyFile {source : PathName} (copied : files.copyFile source path = .ok after) :
    ∃ text readOnly, files.status source = .ok (.file text readOnly) ∧
      after.at? (files.aim path) = some (.file text readOnly) := by
  obtain ⟨node, reached, copied⟩ := bind_eq_ok copied
  cases node with
  | folder => cases copied
  | file text readOnly =>
      obtain ⟨written, wrote, copied⟩ := bind_eq_ok copied
      obtain ⟨place, led, copied⟩ := bind_eq_ok copied
      cases copied
      obtain ⟨low, _, mark, rfl⟩ := of_writeText wrote
      have own : place = files.aim path := (aim_of_locate led).trans (aim_of_working rfl path)
      refine ⟨text, readOnly, reached, ?_⟩
      rw [own, at?_put _ low, if_pos rfl]

theorem of_moveFile {text : String} {readOnly : Bool}
    (found : files.at? place = some (.file text readOnly))
    (moved : files.moveFile place path = .ok after) :
    files.aim path ≠ .root ∧ files.at? (files.aim path) ≠ some .folder ∧
      after = (files.drop place).put (files.aim path) (.file text readOnly) ∧
      ∀ later : Files, later.working = files.working →
        (∀ place, files.at? place = some .folder → later.at? place = some .folder) →
        later.locate path = .ok (files.aim path) := by
  rw [moveFile, found] at moved
  simp only at moved
  split at moved
  next destination landed =>
    cases moved
    obtain ⟨low, free, leads⟩ := of_landing landed
    have own := aim_of_locate (leads files rfl fun _ isFolder => isFolder)
    rw [own] at low free leads ⊢
    exact ⟨low, free, rfl, leads⟩
  · cases moved

theorem landing_of_folders (working : after.working = files.working)
    (same : ∀ place, files.at? place = some .folder ↔ after.at? place = some .folder)
    (landed : files.landing path = .ok place) : after.landing path = .ok place := by
  obtain ⟨⟨upper, piece⟩, found, landed⟩ := bind_eq_ok landed
  have again := target_of_folders working (fun place => (same place).mp) found
  rw [landing, again]
  simp only [bind, Except.bind]
  split at landed
  next other name own =>
    cases own
    split at landed
    · cases landed
    next unended =>
      rw [if_neg unended]
      dsimp only at landed
      split at landed
      · cases landed
      next free =>
        have clear : after.at? (upper.child name) ≠ some .folder := by
          rw [Ne, ← same]
          exact free
        split
        next isFolder => exact absurd isFolder clear
        · exact landed
  · cases landed

/-! ## Paths above a path -/

def stepOf? (characters : List Char) : Option PathName.Piece :=
  if characters = [] then none
  else if characters = ['.'] then some .here
  else if characters = ['.', '.'] then some .up
  else some (.name (String.ofList characters))

theorem ofList_eq_iff {characters : List Char} {text : String} :
    String.ofList characters = text ↔ characters = text.toList := by
  rw [← String.toList_inj, String.toList_ofList]

theorem steps_eq (path : PathName) :
    steps path = (Text.splitAt '/' path.toList).filterMap stepOf? := by
  rw [steps, Text.pieces, List.filterMap_map]
  congr 1
  funext characters
  simp only [Function.comp_apply, stepOf?, ofList_eq_iff]
  rfl

theorem placed_cons (characters : List Char) (rest : List (List Char)) (start : Nat) :
    let finish := start + characters.length
    (PathName.placed (characters :: rest) start = PathName.placed rest (finish + 1) ∧
        (stepOf? characters = none ∨ stepOf? characters = some .here)) ∨
      ∃ piece, stepOf? characters = some piece ∧ (piece = .here → start = 0) ∧
        PathName.placed (characters :: rest) start =
          (piece, finish) :: PathName.placed rest (finish + 1) := by
  rw [PathName.placed, stepOf?]
  by_cases empty : characters = []
  · simp [empty]
  by_cases here : characters = ['.']
  · by_cases first : start = 0
    · simp [here, first]
    · simp [here, first]
  by_cases up : characters = ['.', '.']
  · simp [up]
  · simp [empty, here, up]

theorem of_mem_placed {cuts : List (List Char)} {start finish : Nat} {piece : PathName.Piece}
    (member : (piece, finish) ∈ PathName.placed cuts start) :
    piece ∈ cuts.filterMap stepOf? ∧ (piece = .here → start = 0) := by
  induction cuts generalizing start with
  | nil => cases member
  | cons characters rest ih =>
      have later : ∀ {next}, (piece, finish) ∈ PathName.placed rest (next + 1) →
          piece ∈ (characters :: rest).filterMap stepOf? ∧ (piece = .here → start = 0) := by
        intro next behind
        obtain ⟨found, here⟩ := ih behind
        refine ⟨?_, fun same => absurd (here same) (Nat.succ_ne_zero next)⟩
        rw [List.filterMap_cons]
        split
        · exact found
        · exact List.mem_cons_of_mem _ found
      rcases placed_cons characters rest start with ⟨same, _⟩ | ⟨own, stepped, first, same⟩
      · rw [same] at member
        exact later member
      · rw [same] at member
        rcases List.mem_cons.mp member with equal | behind
        · cases equal
          rw [List.filterMap_cons, stepped]
          exact ⟨List.mem_cons_self, first⟩
        · exact later behind

theorem foldl_placed (cuts : List (List Char)) (start : Nat) (place : Place) :
    ((PathName.placed cuts start).map Prod.fst).foldl glide place =
      (cuts.filterMap stepOf?).foldl glide place := by
  induction cuts generalizing start place with
  | nil => rfl
  | cons characters rest ih =>
      rcases placed_cons characters rest start with ⟨same, none_ | here⟩ | ⟨own, stepped, _, same⟩
      · rw [same, ih, List.filterMap_cons, none_]
      · rw [same, ih, List.filterMap_cons, here]
        rfl
      · rw [same, List.map_cons, List.foldl_cons, ih, List.filterMap_cons, stepped]
        rfl

theorem aim_eq (files : Files) (path : PathName) :
    files.aim path = (path.pieces.map Prod.fst).foldl glide (files.start path) := by
  rw [aim, steps_eq, ← foldl_placed _ 0, PathName.pieces]
  split <;> rfl

theorem aim_of_fileName {last : String} (named : path.fileName? = some last) (files : Files) :
    ∃ folder : Place, files.aim path = folder.child last := by
  rw [PathName.fileName?] at named
  split at named
  next other finish found =>
    cases named
    obtain ⟨front, parted⟩ := List.getLast?_eq_some_iff.mp found
    rw [aim_eq, parted, List.map_append, List.foldl_append]
    exact ⟨_, rfl⟩
  · cases named

theorem getLast?_placed {cuts : List (List Char)} {start : Nat} {name : String}
    (last : (cuts.filterMap stepOf?).getLast? = some (.name name)) :
    ∃ finish, (PathName.placed cuts start).getLast? = some (.name name, finish) := by
  induction cuts generalizing start with
  | nil => cases last
  | cons characters rest ih =>
      by_cases more : rest.filterMap stepOf? = []
      · have none_ : ∀ next, PathName.placed rest next = [] := by
          intro next
          refine List.eq_nil_iff_forall_not_mem.mpr fun ⟨piece, finish⟩ member => ?_
          have counted := (of_mem_placed member).1
          rw [more] at counted
          cases counted
        rw [List.filterMap_cons, more] at last
        rcases placed_cons characters rest start with ⟨_, none_ | here⟩ | ⟨own, stepped, _, same⟩
        · rw [none_] at last
          cases last
        · rw [here] at last
          cases last
        · rw [stepped] at last
          cases last
          exact ⟨_, by rw [same, none_]; rfl⟩
      · have later : (rest.filterMap stepOf?).getLast? = some (.name name) := by
          obtain ⟨first, others, shape⟩ := List.exists_cons_of_ne_nil more
          rw [List.filterMap_cons] at last
          split at last
          · exact last
          · rw [shape] at last ⊢
            rwa [List.getLast?_cons_cons] at last
        rcases placed_cons characters rest start with ⟨same, _⟩ | ⟨_, _, _, same⟩
        · rw [same]
          exact ih later
        · obtain ⟨finish, ending⟩ : ∃ finish, (PathName.placed rest
              (start + characters.length + 1)).getLast? = some (.name name, finish) := ih later
          exact ⟨finish, by rw [same, List.getLast?_cons, ending]; rfl⟩

theorem fileName?_of_getLast? {path : PathName} {name : String}
    (last : (steps path).getLast? = some (.name name)) : path.fileName? = some name := by
  rw [steps_eq] at last
  obtain ⟨finish, ending⟩ : ∃ finish, (PathName.placed (Text.splitAt '/' path.toList) 0).getLast? =
      some (.name name, finish) := getLast?_placed last
  have whole : path.pieces.getLast? = some (.name name, finish) := by
    rw [PathName.pieces]
    split
    · rw [List.getLast?_cons, ending]
      rfl
    · exact ending
  rw [PathName.fileName?, whole]

theorem steps_join (base : PathName) {name : String} (plain : '/' ∉ name.toList)
    (real : name ≠ "" ∧ name ≠ "." ∧ name ≠ "..") :
    steps (PathName.join base name) = steps base ++ [.name name] ∧
      (PathName.join base name).isAbsolute = base.isAbsolute := by
  have relative : PathName.isAbsolute name = false := by
    rw [PathName.isAbsolute, decide_eq_false_iff_not]
    exact fun slash => plain (List.mem_of_head? slash)
  have alone : (Text.splitAt '/' name.toList).filterMap stepOf? = [.name name] := by
    have apart : ∀ {characters : List Char}, name ≠ String.ofList characters →
        name.toList ≠ characters := by
      rintro characters other rfl
      exact other String.ofList_toList.symm
    have own : stepOf? name.toList = some (.name name) := by
      rw [stepOf?, if_neg (apart real.1), if_neg (apart real.2.1), if_neg (apart real.2.2),
        String.ofList_toList]
    rw [Text.splitAt_of_notMem plain, List.filterMap_cons, own]
    rfl
  have parted : ∀ {whole : String} {front : List Char},
      whole.toList = front ++ '/' :: name.toList →
        steps whole = (Text.splitAt '/' front).filterMap stepOf? ++ [.name name] := by
    intro whole front same
    rw [steps_eq, same, Text.splitAt_append, List.filterMap_append, alone]
  rw [PathName.join, if_neg (by rw [relative]; decide)]
  split
  next empty =>
    subst empty
    refine ⟨?_, relative⟩
    rw [steps_eq, alone]
    rfl
  next some_ =>
    have head : ∀ rest : String, PathName.isAbsolute (base ++ rest) = base.isAbsolute := by
      intro rest
      have nonempty : base.toList ≠ [] := by simpa using some_
      obtain ⟨first, others, shape⟩ := List.exists_cons_of_ne_nil nonempty
      rw [PathName.isAbsolute, PathName.isAbsolute, String.toList_append, shape]
      rfl
    split
    next slash =>
      obtain ⟨front, ending⟩ := List.getLast?_eq_some_iff.mp slash
      refine ⟨?_, head name⟩
      have whole : (base ++ name).toList = front ++ '/' :: name.toList := by
        rw [String.toList_append, ending, List.append_assoc]
        rfl
      rw [parted whole, steps_eq base, ending, Text.splitAt_append, List.filterMap_append]
      simp [Text.splitAt, stepOf?]
    · refine ⟨?_, by rw [String.append_assoc]; exact head _⟩
      have whole : (base ++ "/" ++ name).toList = base.toList ++ '/' :: name.toList := by simp
      rw [parted whole, steps_eq base]

theorem aim_join (files : Files) (base : PathName) {name : String} (plain : '/' ∉ name.toList)
    (real : name ≠ "" ∧ name ≠ "." ∧ name ≠ "..") :
    files.aim (PathName.join base name) = (files.aim base).child name := by
  obtain ⟨pieces, absolute⟩ := steps_join base plain real
  rw [aim, aim, pieces, List.foldl_append, start, start, absolute]
  rfl

theorem real_backup_name {last : String} (clear : '/' ∉ last.toList) :
    '/' ∉ (last ++ ".bak").toList ∧
      (last ++ ".bak" ≠ "" ∧ last ++ ".bak" ≠ "." ∧ last ++ ".bak" ≠ "..") := by
  have longer : ∀ text : String, text.toList.length < 4 → last ++ ".bak" ≠ text := by
    rintro text short rfl
    rw [String.toList_append, List.length_append] at short
    have four : ".bak".toList.length = 4 := rfl
    omega
  refine ⟨?_, longer "" (by decide), longer "." (by decide), longer ".." (by decide)⟩
  rw [String.toList_append, List.mem_append]
  rintro (front | back)
  · exact clear front
  · exact absurd back (by decide)

theorem steps_backupPath {path : PathName} {last : String} (named : path.fileName? = some last) :
    steps (backupPath path) = steps (path.parent?.getD "") ++ [.name (last ++ ".bak")] ∧
      (backupPath path).isAbsolute = PathName.isAbsolute (path.parent?.getD "") := by
  obtain ⟨plain, real⟩ := real_backup_name (slash_notMem_fileName named)
  rw [backupPath, PathName.withFileName, named]
  exact steps_join _ plain real

theorem aim_backupPath (files : Files) {path : PathName} {last : String}
    (named : path.fileName? = some last) :
    files.aim (backupPath path) =
      (files.aim (path.parent?.getD "")).child (last ++ ".bak") := by
  obtain ⟨pieces, absolute⟩ := steps_backupPath named
  rw [aim, aim, pieces, List.foldl_append, start, start, absolute]
  rfl

theorem aim_backupPath_of_none (files : Files) {path : PathName} (named : path.fileName? = none) :
    files.aim (backupPath path) = (files.aim path).child ".bak" := by
  rw [backupPath, PathName.withFileName, named]
  exact aim_join files path (by decide) (by decide)

theorem getLast?_backupPath (path : PathName) :
    (backupPath path).toList.getLast? = some 'k' := by
  have joined : ∀ base name : String,
      (PathName.join base (name ++ ".bak")).toList.getLast? = some 'k' := by
    intro base name
    have ending : ∀ front : String, (front ++ (name ++ ".bak")).toList.getLast? = some 'k' := by
      intro front
      rw [← String.append_assoc, String.toList_append, List.getLast?_append]
      rfl
    rw [PathName.join]
    split
    · exact ending ""
    · split
      · exact ending ""
      · split
        · exact ending base
        · exact ending (base ++ "/")
  rw [backupPath, PathName.withFileName]
  split
  · exact joined _ _
  · exact joined _ _

theorem aim_backupPath_ne (files : Files) (path : PathName) :
    files.aim (backupPath path) ≠ files.aim path := by
  cases named : path.fileName? with
  | none =>
      rw [aim_backupPath_of_none files named]
      exact Place.child_ne_self _ _
  | some last =>
      have clear := slash_notMem_fileName named
      obtain ⟨folder, own⟩ := aim_of_fileName named files
      rw [aim_backupPath files named, own]
      intro same
      have names := congrArg String.toList
        (Place.name_of_child (real_backup_name clear).1 clear same)
      rw [String.toList_append] at names
      exact absurd (List.append_right_eq_self.mp names) (by decide)

/-- Where a piece that counts ends, the characters up to there are pieces of their own, and all
that counts behind is in the others. -/
theorem placed_parted {cuts : List (List Char)} {start finish : Nat} {piece : PathName.Piece}
    {front back : List (PathName.Piece × Nat)}
    (parted : PathName.placed cuts start = front ++ (piece, finish) :: back) (more : back ≠ []) :
    ∃ before beyond, cuts = before ++ beyond ∧ before ≠ [] ∧ beyond ≠ [] ∧
      finish = start + (Text.join '/' before).length ∧
      back = PathName.placed beyond (finish + 1) := by
  induction cuts generalizing start front with
  | nil =>
      rw [PathName.placed] at parted
      simp at parted
  | cons characters rest ih =>
      have further : ∀ {front}, PathName.placed rest (start + characters.length + 1) =
          front ++ (piece, finish) :: back →
          ∃ before beyond, characters :: rest = before ++ beyond ∧ before ≠ [] ∧ beyond ≠ [] ∧
            finish = start + (Text.join '/' before).length ∧
            back = PathName.placed beyond (finish + 1) := by
        intro front behind
        obtain ⟨before, beyond, same, some_, others, ending, rest_⟩ := ih behind
        obtain ⟨first, others', shape⟩ := List.exists_cons_of_ne_nil some_
        refine ⟨characters :: before, beyond, by rw [same, List.cons_append], by simp, others, ?_,
          rest_⟩
        rw [ending, shape, Text.join, List.length_append, List.length_cons]
        omega
      rcases placed_cons characters rest start with ⟨same, _⟩ | ⟨own, _, _, same⟩
      · exact further (same ▸ parted)
      · rw [same] at parted
        cases front with
        | cons other front => exact further (List.cons.inj parted).2
        | nil =>
            obtain ⟨equal, behind⟩ := List.cons.inj parted
            cases equal
            refine ⟨[characters], rest, rfl, by simp, ?_, rfl, behind.symm⟩
            rintro rfl
            exact more behind.symm

theorem stepOf?_cases {characters : List Char} {piece : PathName.Piece}
    (stepped : stepOf? characters = some piece) :
    piece = .here ∨ piece = .up ∨ ∃ name, piece = .name name := by
  rw [stepOf?] at stepped
  split at stepped
  · cases stepped
  · split at stepped
    · exact .inl (Option.some.inj stepped).symm
    · split at stepped
      · exact .inr (.inl (Option.some.inj stepped).symm)
      · exact .inr (.inr ⟨_, (Option.some.inj stepped).symm⟩)

def Leads (piece : PathName.Piece) : Prop :=
  piece = .up ∨ ∃ name, piece = .name name

theorem leads_of_mem_placed {cuts : List (List Char)} {start finish : Nat}
    {piece : PathName.Piece} (member : (piece, finish) ∈ PathName.placed cuts (start + 1)) :
    piece ∈ cuts.filterMap stepOf? ∧ Leads piece := by
  obtain ⟨found, first⟩ := of_mem_placed member
  obtain ⟨characters, _, stepped⟩ := List.mem_filterMap.mp found
  rcases stepOf?_cases stepped with here | leads
  · exact absurd (first here) (Nat.succ_ne_zero start)
  · exact ⟨found, leads⟩

/-- The characters up to the end of the piece before the last, in a path that begins so. -/
theorem steps_take {path : PathName} {front : List (PathName.Piece × Nat)}
    {piece : PathName.Piece} {finish : Nat} {last : PathName.Piece × Nat}
    (parted : PathName.placed (Text.splitAt '/' path.toList) 0 =
      front ++ [(piece, finish), last])
    (some_ : String.ofList (path.toList.take finish) ≠ "") :
    PathName.isAbsolute (String.ofList (path.toList.take finish)) = path.isAbsolute ∧
      ∃ rest, steps path = steps (String.ofList (path.toList.take finish)) ++ rest ∧
        ∃ piece ∈ rest, Leads piece := by
  obtain ⟨before, beyond, cuts, first, others, ending, behind⟩ := placed_parted parted (by simp)
  have clear : ∀ cut ∈ before, '/' ∉ cut := by
    intro cut member
    have inside : cut ∈ Text.splitAt '/' path.toList := by
      rw [cuts]
      exact List.mem_append_left _ member
    exact Text.separator_notMem inside
  have whole : path.toList = Text.join '/' before ++ '/' :: Text.join '/' beyond := by
    rw [← Text.join_append '/' first others, ← cuts, Text.join_splitAt]
  have taken : path.toList.take finish = Text.join '/' before := by
    rw [whole, ending, Nat.zero_add, List.take_left]
  rw [taken] at some_ ⊢
  have nonempty : Text.join '/' before ≠ [] := by
    intro empty
    rw [empty] at some_
    exact some_ rfl
  refine ⟨?_, beyond.filterMap stepOf?, ?_, last.1, ?_⟩
  · obtain ⟨character, more, shape⟩ := List.exists_cons_of_ne_nil nonempty
    rw [PathName.isAbsolute, PathName.isAbsolute, String.toList_ofList, whole, shape]
    rfl
  · rw [steps_eq, steps_eq, String.toList_ofList, Text.splitAt_join first clear, cuts,
      List.filterMap_append]
  · have member : last ∈ PathName.placed beyond (finish + 1) := by
      rw [← behind]
      exact List.mem_cons_self
    exact leads_of_mem_placed member

theorem steps_parent {path upper : PathName} (own : path.parent? = some upper)
    (some_ : upper ≠ "") :
    upper.isAbsolute = path.isAbsolute ∧
      ∃ rest, steps path = steps upper ++ rest ∧ ∃ piece ∈ rest, Leads piece := by
  rw [PathName.parent?] at own
  split at own
  · cases own
  · cases own
  · exact absurd (Option.some.inj own).symm some_
  next last piece finish more shape =>
    cases own
    have pieces : path.pieces = more.reverse ++ [(piece, finish), last] := by
      rw [← List.reverse_reverse path.pieces, shape]
      simp
    rw [PathName.pieces] at pieces
    split at pieces
    next absolute =>
      cases front : more.reverse with
      | cons first others =>
          rw [front] at pieces
          exact steps_take (List.cons.inj pieces).2 some_
      | nil =>
          -- what is above is the root folder
          rw [front] at pieces
          obtain ⟨equal, inner⟩ := List.cons.inj pieces
          cases equal
          obtain ⟨tail, whole⟩ : ∃ tail, path.toList = '/' :: tail := by
            rw [PathName.isAbsolute, decide_eq_true_eq] at absolute
            exact List.head?_eq_some_iff.mp absolute
          have cut : Text.splitAt '/' path.toList = [] :: Text.splitAt '/' tail := by
            rw [whole, Text.splitAt, if_pos rfl]
          have member : last ∈ PathName.placed (Text.splitAt '/' tail) (0 + 1) := by
            have same : PathName.placed (Text.splitAt '/' tail) (0 + 1) = [last] := by
              rw [cut] at inner
              exact inner
            rw [same]
            exact List.mem_cons_self
          obtain ⟨found, leads⟩ := leads_of_mem_placed member
          have alone : String.ofList (path.toList.take 1) = "/" := by
            rw [whole]
            rfl
          rw [alone]
          refine ⟨?_, steps path, rfl, last.1, ?_, leads⟩
          · rw [absolute]
            rfl
          · rw [steps_eq, cut]
            exact found
    next relative => exact steps_take pieces some_

/-- Without a step up every name leads further down. -/
theorem length_foldl_glide {pieces : List PathName.Piece} (down : .up ∉ pieces) (place : Place) :
    place.key.toList.length ≤ (pieces.foldl glide place).key.toList.length ∧
      ((∃ name, .name name ∈ pieces) →
        place.key.toList.length < (pieces.foldl glide place).key.toList.length) := by
  induction pieces generalizing place with
  | nil => exact ⟨Nat.le_refl _, fun ⟨_, member⟩ => absurd member List.not_mem_nil⟩
  | cons piece rest ih =>
      obtain ⟨own, down⟩ : piece ≠ .up ∧ .up ∉ rest :=
        ⟨fun same => down (by simp [same]), fun member => down (List.mem_cons_of_mem _ member)⟩
      obtain ⟨least, more⟩ := ih down (glide place piece)
      rw [List.foldl_cons]
      cases piece with
      | up => exact absurd rfl own
      | name name =>
          have longer : place.key.toList.length <
              (glide place (.name name)).key.toList.length := by
            simp only [glide, Place.child, String.toList_append, List.length_append]
            have slash : "/".toList.length = 1 := rfl
            omega
          exact ⟨by omega, fun _ => by omega⟩
      | root =>
          refine ⟨least, ?_⟩
          rintro ⟨name, member⟩
          exact more ⟨name, by simpa using member⟩
      | here =>
          refine ⟨least, ?_⟩
          rintro ⟨name, member⟩
          exact more ⟨name, by simpa using member⟩

end Files

/-- The path of a folder on the way that a path takes. -/
def PathName.IsAbove : PathName → PathName → Prop :=
  Relation.TransGen fun upper lower => upper ≠ "" ∧ lower.parent? = some upper

namespace Files

theorem length_aim_of_isAbove {path above : PathName} (isAbove : above.IsAbove path)
    (down : .up ∉ steps path) (files : Files) :
    .up ∉ steps above ∧
      (files.aim above).key.toList.length < (files.aim path).key.toList.length := by
  have one : ∀ {upper lower : PathName}, upper ≠ "" ∧ lower.parent? = some upper →
      .up ∉ steps lower → .up ∉ steps upper ∧
        (files.aim upper).key.toList.length < (files.aim lower).key.toList.length := by
    rintro upper lower ⟨some_, own⟩ down
    obtain ⟨absolute, rest, parted, piece, member, leads⟩ := steps_parent own some_
    rw [parted, List.mem_append, not_or] at down
    have named : ∃ name, .name name ∈ rest := by
      rcases leads with rfl | ⟨name, rfl⟩
      · exact absurd member down.2
      · exact ⟨name, member⟩
    refine ⟨down.1, ?_⟩
    rw [aim, aim, parted, List.foldl_append, start, start, absolute]
    exact (length_foldl_glide down.2 _).2 named
  induction isAbove using Relation.TransGen.head_induction_on with
  | single step => exact one step down
  | head step _ ih =>
      obtain ⟨lower, longer⟩ := ih
      obtain ⟨upper, shorter⟩ := one step lower
      exact ⟨upper, Nat.lt_trans shorter longer⟩

theorem aim_ne_of_isAbove {path above : PathName} (isAbove : above.IsAbove path)
    (down : .up ∉ steps path) (files : Files) : files.aim above ≠ files.aim path := by
  intro same
  have shorter := (length_aim_of_isAbove isAbove down files).2
  rw [same] at shorter
  exact Nat.lt_irrefl _ shorter

/-- Nor does it lead to the backup by the folders on its way. -/
theorem aim_ne_backup_of_isAbove {path above : PathName} (isAbove : above.IsAbove path)
    (down : .up ∉ steps path) (files : Files) : files.aim above ≠ files.aim (backupPath path) := by
  have below : ∀ {place : Place} {name : String},
      (files.aim above).key.toList.length ≤ place.key.toList.length →
        files.aim above ≠ place.child name := by
    intro place name shorter same
    rw [same, Place.child, String.toList_append, String.toList_append, List.length_append,
      List.length_append] at shorter
    have slash : "/".toList.length = 1 := rfl
    omega
  cases named : path.fileName? with
  | none =>
      rw [aim_backupPath_of_none files named]
      exact below (Nat.le_of_lt (length_aim_of_isAbove isAbove down files).2)
  | some last =>
      rw [aim_backupPath files named]
      refine below ?_
      cases isAbove with
      | single step => exact Nat.le_of_eq (by rw [step.2, Option.getD_some])
      | tail further step =>
          have lower := (length_aim_of_isAbove (.single step) down files).1
          rw [step.2, Option.getD_some]
          exact Nat.le_of_lt (length_aim_of_isAbove further lower files).2

/-! ## Trees -/

variable {files after : Files} {path : PathName} {place : Place}

/-- What is anywhere is in a folder. -/
def IsRooted (files : Files) : Prop :=
  ∀ (place : Place) (name : String), files.at? (place.child name) ≠ none →
    files.at? place = some .folder

theorem IsRooted.at?_of_descent (rooted : files.IsRooted) {pieces : List PathName.Piece}
    (down : .up ∉ pieces) {place : Place} (held : files.at? (pieces.foldl glide place) ≠ none) :
    files.at? place = some .folder ∨ pieces.foldl glide place = place := by
  induction pieces generalizing place with
  | nil => exact .inr rfl
  | cons piece rest ih =>
      have later := ih (fun member => down (List.mem_cons_of_mem _ member)) held
      cases piece with
      | up => exact absurd List.mem_cons_self down
      | root => exact later
      | here => exact later
      | name name =>
          refine .inl (rooted place name ?_)
          rcases later with isFolder | same
          · intro absent
            rw [glide, absent] at isFolder
            cases isFolder
          · rw [List.foldl_cons, same] at held
            exact held

theorem IsRooted.locate_of_same (rooted : files.IsRooted) (down : .up ∉ steps path)
    (working : after.working = files.working) (held : files.at? (files.aim path) ≠ none)
    (same : after.at? (files.aim path) = files.at? (files.aim path))
    (led : after.locate path = .ok place) : files.locate path = .ok place := by
  have follows : ∀ (pieces : List PathName.Piece) (first : Place), .up ∉ pieces →
      pieces.foldl glide first = files.aim path → ∀ final, after.follow first pieces = .ok final →
        files.follow first pieces = .ok final := by
    intro pieces
    induction pieces with
    | nil => exact fun _ _ _ _ led => led
    | cons piece rest ih =>
        intro first down ending final led
        rw [follow_cons] at led
        obtain ⟨_, entered, led⟩ := bind_eq_ok led
        obtain ⟨next, turned, led⟩ := bind_eq_ok led
        have isFolder : files.at? first = some .folder := by
          rcases rooted.at?_of_descent down (ending ▸ held) with isFolder | here
          · exact isFolder
          · rw [here] at ending
            rw [ending, ← same, ← ending]
            exact at?_of_enter entered
        rw [follow_cons, enter_of_at? isFolder, turned]
        refine ih next (fun member => down (List.mem_cons_of_mem _ member)) ?_ final led
        rw [← ending, List.foldl_cons, glide_of_turn turned]
  obtain ⟨fine, led, ended⟩ := locate_eq_ok_iff.mp led
  have start : after.start path = files.start path := by rw [start, start, working]
  rw [start] at led
  have own : place = files.aim path := foldl_of_follow led
  refine locate_eq_ok_iff.mpr ⟨fine, follows _ _ down rfl _ led, fun slash => ?_⟩
  rw [own, ← same, ← own]
  exact ended slash

end Files
end RoleGrants
