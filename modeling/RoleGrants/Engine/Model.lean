import RoleGrants.Engine.Error
import RoleGrants.Text.Blank
import RoleGrants.Text.Split

/-! # Models of the policy engine

A model file has sections of entries, one on a line; a backslash at the end of
a line draws the next one to it.  Of an entry given twice the later value
counts, and what follows a number sign in a value is a remark.

A model names the fields of a request and of a rule, and says how the two are
compared.  It may define kinds of rules that put one name under another. -/

set_option autoImplicit false

namespace RoleGrants

def builtInModel : String :=
  "\n[request_definition]\nr = sub, obj, act\n\n" ++
  "[policy_definition]\np = sub, obj, act\n\n" ++
  "[policy_effect]\ne = some(where (p.eft == allow))\n\n" ++
  "[matchers]\nm = r.sub == p.sub && keyMatch2(r.obj, p.obj) && r.act == p.act\n"

structure ModelEntry where
  sectionName : String
  key : String
  value : String
  deriving DecidableEq, Repr

namespace ModelEntry

inductive Row where
  | skipped
  | title (name : String)
  | entry (text : String)
  deriving DecidableEq, Repr

def row (line : String) : Row :=
  let characters := line.toList
  match characters.head? with
  | none => .skipped
  | some '#' => .skipped
  | some ';' => .skipped
  | some '[' =>
      if characters.getLast? = some ']' ∧ 1 < characters.length then
        .title (String.ofList characters.tail.dropLast)
      else .entry line
  | some _ => .entry line

def continues (line : String) : Bool :=
  line.toList.getLast? = some '\\'

def uncontinued (line : String) : String :=
  Text.trimEnd (String.ofList line.toList.dropLast)

/--
A line with those that it draws to it, the last section named among them, and
the lines behind.  Each line that is drawn takes one backslash away.
-/
def gather : String → Option String → List String → String × Option String × List String
  | line, title, [] => (if continues line then uncontinued line else line, title, [])
  | line, title, next :: rest =>
      if continues line then
        match row (Text.trim next) with
        | .skipped => gather (uncontinued line) title rest
        | .title name => gather (uncontinued line) (some name) rest
        | .entry text => gather (uncontinued line ++ text) title rest
      else (line, title, next :: rest)

theorem length_gather (line : String) (title : Option String) (rest : List String) :
    (gather line title rest).2.2.length ≤ rest.length := by
  induction rest generalizing line title with
  | nil => simp [gather]
  | cons next rest ih =>
      simp only [gather]
      split
      · split <;> exact Nat.le_trans (ih _ _) (by simp)
      · simp

/-- A key and a value around the first equals sign; a backslash at the end is no part of it. -/
def keyValue? (line : String) : Option (String × String) :=
  let isEnd := fun character => Text.isBlank character || character == '\\'
  let characters := (line.toList.reverse.dropWhile isEnd).reverse
  match characters.dropWhile fun character => character != '=' with
  | [] => none
  | _ :: value =>
      let key := characters.takeWhile fun character => character != '='
      some (String.ofList (Text.trimChars key), String.ofList (Text.trimChars value))

/-- The section that the next entries are of; one without a name that an entry draws is ignored. -/
def sectionAfter (current : String) : Option String → String
  | none => current
  | some name => if name = "" then current else name

def read (current : String) (lines : List String) : Except String (List ModelEntry) :=
  match lines with
  | [] => .ok []
  | line :: rest =>
      match row (Text.trim line) with
      | .skipped => read current rest
      | .title name => read name rest
      | .entry begun =>
          let gathered := gather begun none rest
          match keyValue? gathered.1 with
          | none => .error gathered.1
          | some (key, value) =>
              match read (sectionAfter current gathered.2.1) gathered.2.2 with
              | .error bad => .error bad
              | .ok others => .ok (⟨current, key, value⟩ :: others)
termination_by lines.length
decreasing_by
  · simp
  · simp
  · have := length_gather begun none rest
    simp only [List.length_cons]
    omega

def value? (entries : List ModelEntry) (sectionName key : String) : Option String :=
  (entries.reverse.find? fun entry =>
    entry.sectionName == sectionName && entry.key == key).map ModelEntry.value

end ModelEntry

structure RoleKind where
  name : String
  names : Nat
  deriving DecidableEq, Repr, Inhabited

structure Model where
  request : Option (List String)
  policy : Option (List String)
  matcher : Option String
  effect : Option String
  roles : List RoleKind
  deriving DecidableEq, Repr, Inhabited

namespace Model

def valueOf? (entries : List ModelEntry) (sectionName key : String) : Option String :=
  match ModelEntry.value? entries sectionName key with
  | none => none
  | some value =>
      let kept := Text.trimEnd (String.ofList (value.toList.takeWhile fun c => c != '#'))
      if kept = "" then none else some kept

def definition? (entries : List ModelEntry) (definition : Definition) : Option String :=
  valueOf? entries definition.sectionName definition.letter

/-- The kinds `g`, `g2`, `g3` and so on, up to the first that is missing. -/
def roleKinds (entries : List ModelEntry) : Nat → Nat → List RoleKind
  | 0, _ => []
  | fuel + 1, number =>
      let name := if number = 1 then "g" else "g" ++ toString number
      match valueOf? entries "role_definition" name with
      | none => []
      | some value => ⟨name, value.toList.count '_'⟩ :: roleKinds entries fuel (number + 1)

def fieldNames (text : String) : List String :=
  (Text.pieces ',' text).map Text.trim

def ofEntries (entries : List ModelEntry) : Model where
  request := (definition? entries .request).map fieldNames
  policy := (definition? entries .policy).map fieldNames
  matcher := definition? entries .matcher
  effect := definition? entries .effect
  roles := roleKinds entries entries.length 1

def ofText (text : String) : Except String Model :=
  (ModelEntry.read "" ((Text.lines text).map String.ofList)).map ofEntries

end Model

end RoleGrants
