import Mathlib.Data.List.TakeWhile
import RoleGrants.Engine.RuleFile
import RoleGrants.Proofs.Pool.Accounting
import RoleGrants.Proofs.Text.Pieces

/-! # Policy files read back

The text of a policy is its lines without any escaping, so a file reads back as what
was written only because of what the lines are allowed to hold.  A storable field
has no comma, quote or line end and no blank at either end (`PlainField`); a line of
three such fields is cut into the mark of a rule and those fields (`fields?_text`),
and a rendered policy into its lines and nothing else (`rules_render`). -/

set_option autoImplicit false

namespace RoleGrants

open RoleGrants.Text

/-! ## Storable fields -/

structure PlainField (characters : List Char) : Prop where
  nonempty : characters ≠ []
  front : characters.dropWhile isBlank = characters
  back : trimEndChars characters = characters
  plain : ∀ character ∈ characters, character ∉ reservedCharacters

namespace PlainField

variable {characters : List Char}

theorem of_isStorable {text : String} (storable : isStorable text = true) :
    PlainField text.toList := by
  simp only [isStorable, Bool.and_eq_true, bne_iff_ne, ne_eq, beq_iff_eq,
    Bool.not_eq_eq_eq_not, Bool.not_true, List.any_eq_false] at storable
  obtain ⟨⟨nonempty, trimmed⟩, plain⟩ := storable
  have whole : trimEndChars (text.toList.dropWhile isBlank) = text.toList := by
    have same := congrArg String.toList trimmed
    rw [trim, String.toList_ofList] at same
    exact same
  have shrinks : ∀ inner : List Char, (trimEndChars inner).length ≤ inner.length := by
    intro inner
    have less := (List.dropWhile_sublist isBlank (l := inner.reverse)).length_le
    simpa [trimEndChars] using less
  -- Trimming one end alone cannot bring back what the other has lost.
  have front : text.toList.dropWhile isBlank = text.toList := by
    refine (List.dropWhile_sublist isBlank).eq_of_length_le ?_
    have less := shrinks (text.toList.dropWhile isBlank)
    rw [whole] at less
    exact less
  refine ⟨?_, front, ?_, ?_⟩
  · intro empty
    exact nonempty (String.toList_eq_nil_iff.mp empty)
  · rw [front] at whole
    exact whole
  · intro character member reserved
    have free := plain character member
    simp [reserved] at free

theorem of_isStorable_line {line : Line} (storable : line.isStorable = true) :
    PlainField line.subject.toList ∧ PlainField line.object.toList ∧
      PlainField line.action.toList := by
  obtain ⟨first, second, third⟩ := line.isStorable_iff.mp storable
  exact ⟨of_isStorable first, of_isStorable second, of_isStorable third⟩

theorem comma_notMem (field : PlainField characters) : ',' ∉ characters :=
  fun member => field.plain _ member (by simp [reservedCharacters])

theorem quote_notMem (field : PlainField characters) : Char.ofNat 0x22 ∉ characters :=
  fun member => field.plain _ member (by simp [reservedCharacters])

theorem feed_notMem (field : PlainField characters) : '\n' ∉ characters :=
  fun member => field.plain _ member (by simp [reservedCharacters])

theorem return_notMem (field : PlainField characters) : '\r' ∉ characters :=
  fun member => field.plain _ member (by simp [reservedCharacters])

theorem head_not_blank (field : PlainField characters) :
    ∃ first rest, characters = first :: rest ∧ isBlank first = false := by
  obtain ⟨first, rest, same⟩ := List.exists_cons_of_ne_nil field.nonempty
  refine ⟨first, rest, same, ?_⟩
  have front := field.front
  rw [same, List.dropWhile_cons] at front
  split at front
  · have shorter := (List.dropWhile_sublist isBlank (l := rest)).length_le
    rw [front, List.length_cons] at shorter
    omega
  next visible => simpa using visible

end PlainField

theorem trimEndChars_append {last : List Char} (nonempty : last ≠ [])
    (back : trimEndChars last = last) (before : List Char) :
    trimEndChars (before ++ last) = before ++ last := by
  have reversed : last.reverse.dropWhile isBlank = last.reverse := by
    have same := congrArg List.reverse back
    rw [trimEndChars, List.reverse_reverse] at same
    exact same
  obtain ⟨final, rest, same⟩ :=
    List.exists_cons_of_ne_nil (List.reverse_ne_nil_iff.mpr nonempty)
  rw [same, List.dropWhile_cons] at reversed
  split at reversed
  · have shorter := (List.dropWhile_sublist isBlank (l := rest)).length_le
    rw [reversed, List.length_cons] at shorter
    omega
  next visible =>
    rw [trimEndChars, List.reverse_append, same, List.cons_append, List.dropWhile_cons,
      if_neg visible, ← List.cons_append, ← same, List.reverse_append, List.reverse_reverse,
      List.reverse_reverse]

namespace RuleFile

/-! ## Cutting a line -/

theorem takeField_append {field rest : List Char} (comma : ',' ∉ field)
    (quote : Char.ofNat 0x22 ∉ field) (visible : ∃ character ∈ field, isBlank character = false)
    (behind : rest = [] ∨ ∃ more, rest = ',' :: more) :
    takeField (field ++ rest) = (field, rest) := by
  have inside : ∀ character ∈ field, (character != ',') = true := by
    intro character member
    rw [bne_iff_ne]
    rintro rfl
    exact comma member
  have stops : rest.takeWhile (· != ',') = [] ∧ rest.dropWhile (· != ',') = rest := by
    rcases behind with rfl | ⟨more, rfl⟩ <;> simp
  obtain ⟨seen, member, shown⟩ := visible
  have begins : (field ++ rest).dropWhile isBlank = field.dropWhile isBlank ++ rest := by
    rw [List.dropWhile_append, if_neg]
    intro blank
    have all := List.dropWhile_eq_nil_iff.mp (List.isEmpty_iff.mp blank) seen member
    rw [shown] at all
    cases all
  rw [takeField, begins]
  cases left : field.dropWhile isBlank with
  | nil =>
      have all := List.dropWhile_eq_nil_iff.mp left seen member
      rw [shown] at all
      cases all
  | cons first others =>
      have unquoted : first ≠ Char.ofNat 0x22 := by
        rintro rfl
        exact quote ((List.dropWhile_sublist isBlank).subset (left ▸ List.mem_cons_self))
      simp only [List.cons_append, if_neg unquoted]
      rw [List.takeWhile_append_of_pos inside, List.dropWhile_append_of_pos inside, stops.1,
        stops.2, List.append_nil]

theorem cut_append (field rest : List Char) (comma : ',' ∉ field)
    (quote : Char.ofNat 0x22 ∉ field) (visible : ∃ character ∈ field, isBlank character = false)
    (behind : rest = [] ∨ ∃ more, rest = ',' :: more) (afterField : Bool) :
    cut (field ++ rest) afterField = field :: cut rest true := by
  have taken := takeField_append comma quote visible behind
  obtain ⟨seen, member, _⟩ := visible
  have nonempty : field ≠ [] := List.ne_nil_of_mem member
  have shorter : ¬ rest.length = (field ++ rest).length := by
    have positive := List.length_pos_iff.mpr nonempty
    rw [List.length_append]
    omega
  rw [cut, taken]
  have going : ¬ (field.isEmpty = true ∨ rest.length = (field ++ rest).length) := by
    rintro (empty | same)
    · exact nonempty (List.isEmpty_iff.mp empty)
    · exact shorter same
  rw [dif_neg going]

theorem cut_comma (rest : List Char) : cut (',' :: rest) true = cut rest false := by
  have taken : takeField (',' :: rest) = ([], ',' :: rest) := by
    have visible : isBlank ',' = false := by decide
    simp [takeField, visible]
  rw [cut, taken]
  simp

theorem cut_nil : cut [] true = [] := by
  rw [cut]
  simp [takeField]

theorem cut_line {subject object action : List Char} (first : PlainField subject)
    (second : PlainField object) (third : PlainField action) :
    cut ('p' :: ',' :: ' ' :: (subject ++ ',' :: ' ' :: (object ++ ',' :: ' ' :: action))) false =
      [['p'], ' ' :: subject, ' ' :: object, ' ' :: action] := by
  have visible : ∀ {characters : List Char}, PlainField characters →
      ∃ character ∈ ' ' :: characters, isBlank character = false := by
    intro characters field
    obtain ⟨head, rest, rfl, shown⟩ := field.head_not_blank
    exact ⟨head, by simp, shown⟩
  have noComma : ∀ {characters : List Char}, PlainField characters → ',' ∉ ' ' :: characters := by
    intro characters field
    simpa using field.comma_notMem
  have noQuote : ∀ {characters : List Char}, PlainField characters →
      Char.ofNat 0x22 ∉ ' ' :: characters := by
    intro characters field
    have free := field.quote_notMem
    simpa using free
  have mark := cut_append ['p']
    (',' :: ' ' :: (subject ++ ',' :: ' ' :: (object ++ ',' :: ' ' :: action)))
    (by simp) (by decide) ⟨'p', by simp, by decide⟩ (.inr ⟨_, rfl⟩) false
  have one := cut_append (' ' :: subject) (',' :: ' ' :: (object ++ ',' :: ' ' :: action))
    (noComma first) (noQuote first) (visible first) (.inr ⟨_, rfl⟩) false
  have two := cut_append (' ' :: object) (',' :: ' ' :: action)
    (noComma second) (noQuote second) (visible second) (.inr ⟨_, rfl⟩) false
  have three := cut_append (' ' :: action) []
    (noComma third) (noQuote third) (visible third) (.inl rfl) false
  simp only [List.cons_append, List.nil_append, List.append_nil] at mark one two three
  rw [mark, cut_comma, one, cut_comma, two, cut_comma, three, cut_nil]

theorem bare_field {characters : List Char} (field : PlainField characters) :
    bare (' ' :: characters) = String.ofList characters := by
  have trimmed : trimChars (' ' :: characters) = characters := by
    have blank : isBlank ' ' = true := by decide
    rw [trimChars, List.dropWhile_cons, if_pos blank, field.front, field.back]
  rw [bare, trimmed, if_neg]
  rintro ⟨quoted, _, _⟩
  exact field.quote_notMem (List.mem_of_head? quoted)

theorem fields?_text {line : Line} (storable : line.isStorable = true) :
    fields? line.text = some ("p" :: line.rule) := by
  obtain ⟨first, second, third⟩ := PlainField.of_isStorable_line storable
  have characters : line.text.toList = 'p' :: ',' :: ' ' ::
      (line.subject.toList ++ ',' :: ' ' ::
        (line.object.toList ++ ',' :: ' ' :: line.action.toList)) := by
    simp [Line.text]
  have trimmed : trimChars line.text.toList = line.text.toList := by
    have visible : isBlank 'p' = false := by decide
    have front : line.text.toList.dropWhile isBlank = line.text.toList := by
      rw [characters, List.dropWhile_cons, if_neg (by simp [visible])]
    have ending := trimEndChars_append third.nonempty third.back
      ('p' :: ',' :: ' ' ::
        (line.subject.toList ++ ',' :: ' ' :: (line.object.toList ++ [',', ' '])))
    simp only [List.cons_append, List.append_assoc, List.nil_append] at ending
    rw [trimChars, front, characters, ending]
  have kept : isSkipped line.text.toList = false := by
    rw [characters]
    rfl
  have mark : bare ['p'] = "p" := by decide
  simp only [fields?, trimmed, kept, Bool.false_eq_true, if_false, Option.some.injEq]
  rw [characters, cut_line first second third]
  simp only [List.map_cons, List.map_nil, bare_field first, bare_field second,
    bare_field third, mark, String.ofList_toList, Line.rule]

/-! ## Whole files -/

theorem feed_notMem_text {line : Line} (storable : line.isStorable = true) :
    '\n' ∉ line.text.toList := by
  obtain ⟨first, second, third⟩ := PlainField.of_isStorable_line storable
  simp [Line.text, first.feed_notMem, second.feed_notMem, third.feed_notMem]

theorem return_notMem_text {line : Line} (storable : line.isStorable = true) :
    '\r' ∉ line.text.toList := by
  obtain ⟨first, second, third⟩ := PlainField.of_isStorable_line storable
  simp [Line.text, first.return_notMem, second.return_notMem, third.return_notMem]

theorem linesOf_render {compiled : Compiled}
    (storable : ∀ line ∈ compiled.lines, line.isStorable = true) :
    linesOf compiled.render = compiled.lines.map Line.text := by
  have characters : compiled.render.toList =
      (compiled.lines.map fun line => line.text.toList).flatMap fun piece => piece ++ ['\n'] := by
    simp [Compiled.render, String.toList_join, List.flatMap_map]
  have clear : ∀ piece ∈ compiled.lines.map fun line => line.text.toList, '\n' ∉ piece := by
    intro piece member
    obtain ⟨line, present, rfl⟩ := List.mem_map.mp member
    exact feed_notMem_text (storable line present)
  have cutLines : Text.lines compiled.render =
      compiled.lines.map fun line => line.text.toList := by
    rw [Text.lines, characters, splitAt_flatMap '\n' clear]
    simp
  rw [linesOf, cutLines, List.map_map]
  refine List.map_congr_left ?_
  intro line member
  have unreturned : line.text.toList.getLast? ≠ some '\r' := by
    intro last
    exact return_notMem_text (storable line member) (List.mem_of_getLast? last)
  simp only [Function.comp_apply, if_neg unreturned, String.ofList_toList]

theorem keepOnce_append {α : Type} [DecidableEq α] {values kept : List α}
    (distinct : (kept.reverse ++ values).Nodup) :
    keepOnce values kept = kept.reverse ++ values := by
  induction values generalizing kept with
  | nil => simp [keepOnce]
  | cons value rest ih =>
      have new : value ∉ kept := by
        intro old
        have apart := (List.nodup_append.mp distinct).2.2
        exact apart value (List.mem_reverse.mpr old) value List.mem_cons_self rfl
      have shifted : kept.reverse ++ value :: rest = (value :: kept).reverse ++ rest := by simp
      rw [keepOnce, if_neg new, shifted]
      exact ih (shifted ▸ distinct)

/-- Every line of a rendered policy is a rule, of the kind of permissions and with its
fields alone. -/
theorem fields_render {compiled : Compiled}
    (storable : ∀ line ∈ compiled.lines, line.isStorable = true) :
    (linesOf compiled.render).filterMap fields? =
      compiled.lines.map fun line => "p" :: line.rule := by
  rw [linesOf_render storable, List.filterMap_map, ← List.filterMap_eq_map]
  refine List.filterMap_congr ?_
  intro line member
  exact fields?_text (storable line member)

theorem rules_render {compiled : Compiled}
    (storable : ∀ line ∈ compiled.lines, line.isStorable = true)
    (distinct : compiled.lines.Nodup) :
    rules "p" compiled.render = compiled.lines.map Line.rule := by
  have once : (compiled.lines.map Line.rule).Nodup :=
    List.Pairwise.map Line.rule (fun _ _ apart same => apart (Line.rule_injective same)) distinct
  rw [rules, linesOf_render storable, List.filterMap_map]
  rw [List.filterMap_congr (g := fun line => some (Line.rule line))]
  · rw [List.filterMap_eq_map', keepOnce_append (by simpa using once)]
    rfl
  · intro line member
    simp [fields?_text (storable line member)]

end RuleFile
end RoleGrants
