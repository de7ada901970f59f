import RoleGrants.Text.Split

/-! # Names of paths

A path is a text; slashes cut it into pieces.  Empty pieces and pieces that are
a single dot do not count, except for a dot at the very beginning.  `parent?`
and `fileName?` look at the last piece that counts, `join` puts one path behind
another. -/

set_option autoImplicit false

namespace RoleGrants

abbrev PathName := String

namespace PathName

inductive Piece where
  | root
  | here
  | up
  | name (text : String)
  deriving DecidableEq, Repr

def isAbsolute (path : PathName) : Bool :=
  path.toList.head? = some '/'

/-- The pieces that count, each with the number of characters up to its end. -/
def placed : List (List Char) → Nat → List (Piece × Nat)
  | [], _ => []
  | characters :: rest, start =>
      let finish := start + characters.length
      let others := placed rest (finish + 1)
      if characters.isEmpty then others
      else if characters = ['.'] then if start = 0 then (.here, finish) :: others else others
      else if characters = ['.', '.'] then (.up, finish) :: others
      else (.name (String.ofList characters), finish) :: others

def pieces (path : PathName) : List (Piece × Nat) :=
  let inner := placed (Text.splitAt '/' path.toList) 0
  if path.isAbsolute then (.root, 1) :: inner else inner

/-- The name at the end; a path that ends in a step up, or names a root, has none. -/
def fileName? (path : PathName) : Option String :=
  match path.pieces.getLast? with
  | some (.name last, _) => some last
  | _ => none

def parent? (path : PathName) : Option PathName :=
  match path.pieces.reverse with
  | [] => none
  | [(.root, _)] => none
  | [_] => some ""
  | _ :: (_, finish) :: _ => some (String.ofList (path.toList.take finish))

/-- An absolute path replaces the one before it. -/
def join (base next : PathName) : PathName :=
  if next.isAbsolute then next
  else if base = "" then next
  else if base.toList.getLast? = some '/' then base ++ next
  else base ++ "/" ++ next

def withFileName (path : PathName) (name : String) : PathName :=
  match path.fileName? with
  | some _ => join (path.parent?.getD "") name
  | none => join path name

end PathName

end RoleGrants
