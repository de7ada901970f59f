import RoleGrants.Proofs.Engine.BuiltIn
import RoleGrants.Proofs.Engine.Searching
import RoleGrants.Proofs.Policy.RoundTrip

/-! # Routes spelled out

A pattern is made of an object as it is written: nothing is escaped.  An object without
signs is read as one step for each of its characters (`reading?_eq_of_plain`), a point
being a step over anything but a line feed, so that it matches the paths that it spells
(`matches_iff_of_plain`). -/

set_option autoImplicit false

namespace RoleGrants

/-- The characters that do not stand for themselves in an object, the point apart. -/
def routeSigns : List Char :=
  [':', '*', '+', '?', '(', ')', '[', Char.ofNat 0x7B, '|', '^', '$', '\\']

namespace Pattern

/-- What a character that is no sign is a step over. -/
def stepOf (character : Char) : CharSet :=
  if character = '.' then .allBut (.single '\n') else .single character

theorem holds_stepOf (sign character : Char) :
    (stepOf sign).holds character = true ↔
      if sign = '.' then character ≠ '\n' else character = sign := by
  unfold stepOf
  split
  · have other := CharSet.holds_single_iff character '\n'
    simp only [CharSet.holds, Bool.not_eq_true', ne_eq, ← other, Bool.not_eq_true]
  · exact CharSet.holds_single_iff character sign

/-! ## Reading -/

/-- What one character is read as that is an end or no sign. -/
def asRead (character : Char) : Pattern :=
  if character = '^' then .look .textStart
  else if character = '$' then .look .textFinish
  else .one (stepOf character)

def isEnd (character : Char) : Prop :=
  character = '^' ∨ character = '$'

namespace Progress

variable {progress : Progress}

theorem step?_eq_add (plain : progress.mode = .plain) {character : Char}
    (alone : isEnd character ∨ character ∉ routeSigns) (rest : List Char) :
    progress.step? character rest = some (progress.add (asRead character), rest) := by
  have single : single? progress.mode character = some (asRead character) := by
    rw [plain, single?, asRead]
    split
    · rfl
    · split
      · rfl
      · unfold stepOf
        split
        · rfl
        · rfl
  have free : character ∉
      ['*', '+', '?', '(', ')', '[', Char.ofNat 0x7B, '|', '\\'] := by
    rcases alone with (rfl | rfl) | apart
    · decide
    · decide
    · intro member
      refine apart (List.Sublist.subset ?_ member)
      decide
  simp only [List.mem_cons, List.not_mem_nil, or_false, not_or] at free
  obtain ⟨star, plus, mark, opens, closes, set, brace, bar, slash⟩ := free
  have unrepeated : Repetition.ofSign? character = none := by
    simp [Repetition.ofSign?, star, plus, mark]
  rw [step?, if_neg brace, unrepeated]
  simp only [part?, if_neg opens, if_neg closes, if_neg bar, if_neg set, if_neg slash, single,
    Option.map_some]

def addAll (progress : Progress) (patterns : List Pattern) : Progress :=
  patterns.foldl add progress

theorem read?_eq_addAll (plain : progress.mode = .plain) (closed : progress.around = [])
    {characters : List Char}
    (alone : ∀ character ∈ characters, isEnd character ∨ character ∉ routeSigns) :
    read? (characters.length + 1) progress characters =
      some (progress.addAll (characters.map asRead)).alternatives := by
  have unspaced : progress.mode.isSpaced = false := by
    rw [plain]
    rfl
  induction characters generalizing progress with
  | nil =>
      rw [read?, Mode.skip_of_not_isSpaced _ _ unspaced]
      simp [closed, addAll]
  | cons character rest ih =>
      have step := step?_eq_add plain (alone character List.mem_cons_self) rest
      rw [List.length_cons, read?, Mode.skip_of_not_isSpaced _ _ unspaced]
      simp only [step]
      have later : ∀ other ∈ rest, isEnd other ∨ other ∉ routeSigns :=
        fun other member => alone other (List.mem_cons_of_mem _ member)
      have added : (progress.add (asRead character)).mode.isSpaced = false := unspaced
      exact @ih (progress.add (asRead character)) plain closed later added

theorem pieces_addAll (patterns : List Pattern) :
    (progress.addAll patterns).pieces =
      patterns.reverse.map (fun pattern => ⟨.leaf pattern, true⟩) ++ progress.pieces ∧
    (progress.addAll patterns).branches = progress.branches := by
  induction patterns generalizing progress with
  | nil => exact ⟨rfl, rfl⟩
  | cons pattern rest ih =>
      obtain ⟨pieces, branches⟩ := @ih (progress.add pattern)
      refine ⟨?_, branches⟩
      rw [addAll, List.foldl_cons, ← addAll, pieces]
      simp [add]

end Progress

theorem rowDepth_leaves_le (patterns : List Pattern) :
    Nested.rowDepth (patterns.map Nested.leaf) ≤ 1 := by
  have flat : ∀ parts : List Pattern, Nested.greatestDepth (parts.map Nested.leaf) = 0 := by
    intro parts
    induction parts with
    | nil => rfl
    | cons part rest ih => exact ih
  match patterns with
  | [] => exact Nat.zero_le 1
  | [pattern] => exact Nat.zero_le 1
  | first :: second :: rest =>
      have row : Nested.rowDepth ((first :: second :: rest).map Nested.leaf) =
          Nested.greatestDepth ((first :: second :: rest).map Nested.leaf) + 1 := rfl
      rw [row, flat]

/-- A text of ends and of characters that are no signs is a row of what they are read as. -/
theorem read?_eq_row {characters : List Char}
    (alone : ∀ character ∈ characters, isEnd character ∨ character ∉ routeSigns) :
    read? characters = some ((characters.map asRead).foldr Pattern.both .empty) := by
  have read : Progress.read? (characters.length + 1) .fresh characters =
      some (Progress.fresh.addAll (characters.map asRead)).alternatives :=
    Progress.read?_eq_addAll rfl rfl alone
  obtain ⟨pieces, branches⟩ :=
    @Progress.pieces_addAll Progress.fresh (characters.map asRead)
  have whole : (Progress.fresh.addAll (characters.map asRead)).alternatives =
      ⟨(characters.map asRead).foldr Pattern.both .empty,
        Nested.rowDepth ((characters.map asRead).reverse.map Nested.leaf)⟩ := by
    rw [Progress.alternatives, pieces, branches]
    simp [Progress.fresh, row, anyOf, Nested.rowDepth, List.map_reverse, List.foldr_map,
      Function.comp_def, Nested.leaf]
  have depth := rowDepth_leaves_le (characters.map asRead).reverse
  have shallow : Nested.rowDepth ((characters.map asRead).reverse.map Nested.leaf) ≤
      greatestDepth := Nat.le_trans depth (by decide)
  rw [read?, read, whole]
  exact if_pos shallow

end Pattern

namespace RoutePattern

/-! ## Objects without signs -/

theorem openStars_of_notMem {characters : List Char} (free : '*' ∉ characters) :
    openStars characters = characters := by
  induction characters with
  | nil => rfl
  | cons first rest ih =>
      have kept := ih fun later => free (List.mem_cons_of_mem _ later)
      unfold openStars
      split
      next starred same =>
        rw [same] at free
        simp at free
      next same =>
        cases same
        rw [kept]
      next same => cases same

theorem openNames_of_notMem {characters : List Char} (free : ':' ∉ characters) :
    openNames false characters = characters := by
  induction characters with
  | nil => rfl
  | cons first rest ih =>
      have other : first ≠ ':' := fun same => free (same ▸ List.mem_cons_self)
      rw [openNames, if_neg other, ih fun later => free (List.mem_cons_of_mem _ later)]

theorem written_of_notMem {object : String} (colon : ':' ∉ object.toList)
    (star : '*' ∉ object.toList) : written object = '^' :: object.toList ++ ['$'] := by
  rw [written, openStars_of_notMem star, openNames_of_notMem colon]

def IsPlain (object : String) : Prop :=
  ∀ character ∈ object.toList, character ∉ routeSigns

instance (object : String) : Decidable (IsPlain object) :=
  List.decidableBAll _ _

/-- The path has the characters of the object, and any but a line feed for a point. -/
def Spells (object path : String) : Prop :=
  List.Forall₂ (fun sign character => if sign = '.' then character ≠ '\n' else character = sign)
    object.toList path.toList

theorem spells_iff_of_notMem {object path : String} (point : '.' ∉ object.toList) :
    Spells object path ↔ path = object := by
  have same : Spells object path ↔ List.Forall₂ Eq object.toList path.toList := by
    rw [Spells]
    generalize path.toList = others
    generalize object.toList = characters at point
    induction characters generalizing others with
    | nil => simp
    | cons sign rest ih =>
        have other : sign ≠ '.' := fun equal => point (equal ▸ List.mem_cons_self)
        cases others with
        | nil => simp
        | cons character others =>
            rw [List.forall₂_cons, List.forall₂_cons, if_neg other,
              ih others (fun later => point (List.mem_cons_of_mem _ later)), eq_comm]
  rw [same, List.forall₂_eq_eq_eq]
  exact ⟨fun equal => (String.toList_inj.mp equal).symm, fun equal => by rw [equal]⟩

theorem reading?_eq_of_plain {object : String} (plain : IsPlain object) :
    reading? object = some (Pattern.anchored (object.toList.map Pattern.stepOf)) := by
  have apart : ∀ sign ∈ routeSigns, sign ∉ object.toList :=
    fun sign listed member => plain sign member listed
  have alone : ∀ character ∈ '^' :: object.toList ++ ['$'],
      Pattern.isEnd character ∨ character ∉ routeSigns := by
    intro character member
    simp only [List.cons_append, List.mem_cons, List.mem_append, List.not_mem_nil,
      or_false] at member
    rcases member with first | inner | last
    · exact .inl (.inl first)
    · exact .inr (plain character inner)
    · exact .inl (.inr last)
  have steps : ∀ characters : List Char, (∀ character ∈ characters, character ∉ routeSigns) →
      ((characters ++ ['$']).map Pattern.asRead).foldr Pattern.both .empty =
        Pattern.steps (characters.map Pattern.stepOf) := by
    intro characters free
    induction characters with
    | nil => rfl
    | cons character rest ih =>
        have own := free character List.mem_cons_self
        have read : Pattern.asRead character = .one (Pattern.stepOf character) := by
          rw [Pattern.asRead, if_neg, if_neg]
          · rintro rfl
            exact own (by decide)
          · rintro rfl
            exact own (by decide)
        rw [List.cons_append, List.map_cons, List.foldr_cons, read,
          ih fun other later => free other (List.mem_cons_of_mem _ later)]
        rfl
  rw [reading?, written_of_notMem (apart ':' (by decide)) (apart '*' (by decide)),
    Pattern.read?_eq_row alone, List.cons_append, List.map_cons, List.foldr_cons,
    steps object.toList plain]
  rfl

theorem matches_iff_of_plain {object : String} (plain : IsPlain object) (path : String) :
    Matches object path ↔ Spells object path := by
  rw [Matches, reading?_eq_of_plain plain]
  simp only [Option.some.injEq, exists_eq_left', Pattern.isFound_anchored, Spells,
    List.forall₂_map_left_iff, Pattern.holds_stepOf]

end RoutePattern

/-! ## Engines of one line, and of none -/

theorem Verdict.Tells.covers {line : Line} {subject path method : String} {verdict : Verdict}
    (tells : verdict.Tells [line] subject path method) (allowed : verdict = .allowed) :
    line.Covers subject path method := by
  subst allowed
  obtain ⟨other, member, covers⟩ := tells
  rw [List.mem_singleton] at member
  exact member ▸ covers

theorem Model.weigh_nil_eq_allowed_iff (subject path method : String) :
    roleModel.weigh [] subject path method = .allowed ↔
      subject = "" ∧ path = "" ∧ method = "" := by
  have plain : RoutePattern.IsPlain "" := by decide
  have modest : RoutePattern.IsModest "" := by decide +kernel
  have admitted : RoutePattern.admits? "" path = some true ↔ path = "" := by
    rw [← RoutePattern.spells_iff_of_notMem (by decide), ← RoutePattern.matches_iff_of_plain plain]
    cases found : RoutePattern.admits? "" path with
    | none =>
        rw [RoutePattern.admits?, Option.map_eq_none_iff] at found
        exact absurd found modest.pattern?_ne_none
    | some admits => rw [RoutePattern.matches_iff_of_admits? found, Option.some.injEq]
  have weighed : roleModel.weigh [] subject path method =
      verdict "r.sub == p.sub && keyMatch2(r.obj, p.obj) && r.act == p.act"
        (compare ["sub", "obj", "act"] [subject, path, method] ["sub", "obj", "act"]
          (Line.rule ⟨"", "", ""⟩)) := rfl
  rw [weighed, compare_roleModel, ← admitted]
  split
  next own =>
    cases found : RoutePattern.admits? "" path with
    | none => simp [verdict]
    | some admits =>
        cases admits with
        | true =>
            by_cases called : method = ""
            · simp [verdict, own, called]
            · simp [verdict, called]
        | false => simp [verdict]
  next other => simp [verdict, other]

end RoleGrants
