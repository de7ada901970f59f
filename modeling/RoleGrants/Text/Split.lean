/-! # Cutting texts

`splitAt separator` cuts a text at every occurrence of one character; joining
the pieces with that character gives the text back (`join_splitAt`). -/

set_option autoImplicit false

namespace RoleGrants.Text

def splitAt (separator : Char) : List Char → List (List Char)
  | [] => [[]]
  | character :: rest =>
      if character = separator then [] :: splitAt separator rest
      else
        match splitAt separator rest with
        | [] => [[character]]
        | piece :: pieces => (character :: piece) :: pieces

def join (separator : Char) : List (List Char) → List Char
  | [] => []
  | [piece] => piece
  | piece :: next :: pieces => piece ++ separator :: join separator (next :: pieces)

theorem splitAt_ne_nil (separator : Char) (characters : List Char) :
    splitAt separator characters ≠ [] := by
  cases characters with
  | nil => simp [splitAt]
  | cons character rest =>
      simp only [splitAt]
      split
      · simp
      · split <;> simp

theorem join_splitAt (separator : Char) (characters : List Char) :
    join separator (splitAt separator characters) = characters := by
  induction characters with
  | nil => rfl
  | cons character rest ih =>
      have nonempty := splitAt_ne_nil separator rest
      simp only [splitAt]
      split
      · cases pieces : splitAt separator rest with
        | nil => exact absurd pieces nonempty
        | cons piece more => simp_all [join]
      · cases pieces : splitAt separator rest with
        | nil => exact absurd pieces nonempty
        | cons piece more =>
            cases more with
            | nil => simp_all [join]
            | cons next others => simp_all [join]

def pieces (separator : Char) (text : String) : List String :=
  (splitAt separator text.toList).map String.ofList

/-- The lines of a text; a line feed behind the last one is its end and begins no other. -/
def lines (text : String) : List (List Char) :=
  let cut := splitAt '\n' text.toList
  if cut.getLast? = some [] then cut.dropLast else cut

def startsWith (text start : String) : Bool :=
  start.toList.isPrefixOf text.toList

def lowerAscii (text : String) : String :=
  String.ofList (text.toList.map Char.toLower)

def joinWith (separator : String) : List String → String
  | [] => ""
  | [text] => text
  | text :: next :: texts => text ++ separator ++ joinWith separator (next :: texts)

end RoleGrants.Text
