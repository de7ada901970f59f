import RoleGrants.Text.Blank
import RoleGrants.Text.Split

/-! # Files of rules

One rule on a line: the kind of the rule, then its fields, between commas.  A
field may stand in quotes, and blanks around it are dropped.  Empty lines and
lines that begin with a number sign are skipped.  Equal rules count once. -/

set_option autoImplicit false

namespace RoleGrants.RuleFile

open RoleGrants.Text

def takeField (characters : List Char) : List Char × List Char :=
  let blanks := characters.takeWhile isBlank
  match characters.dropWhile isBlank with
  | [] => (blanks, [])
  | first :: rest =>
      if first = Char.ofNat 0x22 then
        let isInside := fun character => character != Char.ofNat 0x22
        match rest.dropWhile isInside with
        | [] => (blanks ++ first :: rest, [])
        | quote :: tail => (blanks ++ first :: rest.takeWhile isInside ++ [quote], tail)
      else
        let isInside := fun character => character != ','
        (characters.takeWhile isInside, characters.dropWhile isInside)

theorem length_takeField (characters : List Char) :
    (takeField characters).2.length ≤ characters.length := by
  have blanks := (List.dropWhile_sublist (fun c => isBlank c) (l := characters)).length_le
  simp only [takeField]
  split
  · simp
  · next first rest same =>
      rw [same] at blanks
      split
      · split
        · simp
        · next quote tail found =>
            have inside := (List.dropWhile_sublist
              (fun c => c != Char.ofNat 0x22) (l := rest)).length_le
            rw [found] at inside
            simp only [List.length_cons] at *
            omega
      · exact (List.dropWhile_sublist _).length_le

/--
All fields of a line.  An empty field is passed over where another field has
just ended, and the comma after it is stepped across.
-/
def cut (characters : List Char) (afterField : Bool) : List (List Char) :=
  let taken := takeField characters
  if _stuck : taken.1.isEmpty = true ∨ taken.2.length = characters.length then
    match characters with
    | [] => if afterField then [] else [[]]
    | _ :: rest => if afterField then cut rest false else [] :: cut rest false
  else taken.1 :: cut taken.2 true
termination_by characters.length
decreasing_by
  · simp
  · simp
  · have := length_takeField characters
    have nonempty : ¬ taken.2.length = characters.length := fun same => _stuck (.inr same)
    simp only [taken] at *
    omega

/-- A field without the blanks and the quotes around it. -/
def bare (characters : List Char) : String :=
  let inner := trimChars characters
  let quote := Char.ofNat 0x22
  if inner.head? = some quote ∧ inner.getLast? = some quote ∧ 2 ≤ inner.length then
    String.ofList inner.tail.dropLast
  else String.ofList inner

def isSkipped (characters : List Char) : Bool :=
  characters.isEmpty || characters.head? == some '#'

/-- The fields of one line; nothing when the line is skipped. -/
def fields? (line : String) : Option (List String) :=
  if isSkipped line.toList then none
  else
    let inner := trimChars line.toList
    if isSkipped inner then none else some ((cut inner false).map bare)

/-- The lines of a text; a line end is a line feed, with or without a return before it. -/
def linesOf (text : String) : List String :=
  (Text.lines text).map fun line =>
    String.ofList (if line.getLast? = some '\r' then line.dropLast else line)

def keepOnce {α : Type} [DecidableEq α] : List α → List α → List α
  | [], kept => kept.reverse
  | value :: rest, kept =>
      if value ∈ kept then keepOnce rest kept else keepOnce rest (value :: kept)

def rules (kind : String) (text : String) : List (List String) :=
  let found := (linesOf text).filterMap fun line =>
    match fields? line with
    | some (name :: rest) => if name = kind then some rest else none
    | _ => none
  keepOnce found []

end RoleGrants.RuleFile
