import RoleGrants.Engine.Pattern.Escape
import RoleGrants.Engine.Pattern.Nested

/-! # The written form of sets

A set between brackets lists its members, which may be sets between brackets
themselves.  Two signs in a row join all members before them with all behind. -/

set_option autoImplicit false

namespace RoleGrants.Pattern

inductive SetSign where
  | both
  | without
  | apart
  deriving DecidableEq, Repr

def SetSign.join (left right : CharSet) : SetSign → CharSet
  | .both => .both left right
  | .without => .without left right
  | .apart => .apart left right

/-- A set whose closing bracket has not been read; its members stand in reverse order. -/
structure OpenSet where
  isNegated : Bool
  left : Option (Nested CharSet × SetSign)
  members : List (Nested CharSet)

namespace OpenSet

def add (opened : OpenSet) (member : Nested CharSet) : OpenSet :=
  { opened with members := member :: opened.members }

/-- The members since the last sign. -/
def row (opened : OpenSet) : Nested CharSet :=
  ⟨opened.members.foldr (fun member set => .either set member.part) .nothing,
    Nested.rowDepth opened.members⟩

def joined (mode : Mode) (opened : OpenSet) : Nested CharSet :=
  match opened.left with
  | none => opened.row
  | some (left, sign) =>
      ⟨sign.join (mode.cased left.part) (mode.cased opened.row.part),
        max left.depth opened.row.depth + 1⟩

def sign (mode : Mode) (opened : OpenSet) (sign : SetSign) : OpenSet :=
  { opened with left := some (opened.joined mode, sign), members := [] }

/-- The set when its closing bracket has been read.  Cases are joined before the set is negated. -/
def close? (mode : Mode) (opened : OpenSet) : Option (Nested CharSet) :=
  let all := opened.joined mode
  let set := mode.cased all.part
  if !opened.isNegated then some ⟨set, all.depth + 1⟩
  else if mode.alphabet = .unicode then some ⟨.allBut set, all.depth + 1⟩
  else none

end OpenSet

/-- Hyphens in front of all other members stand for themselves. -/
def leadingHyphens (mode : Mode) : Nat → OpenSet → List Char → OpenSet × List Char
  | fuel + 1, opened, '-' :: rest =>
      leadingHyphens mode fuel (opened.add (.leaf (.single '-'))) (mode.skip rest)
  | _, opened, characters => (opened, characters)

def openSet (mode : Mode) (characters : List Char) : OpenSet × List Char :=
  let inner := mode.skip characters
  let isNegated := inner.head? == some '^'
  let begun := if isNegated then mode.skip inner.tail else inner
  let (opened, body) := leadingHyphens mode begun.length ⟨isNegated, none, []⟩ begun
  match opened.members, body with
  | [], ']' :: rest => (opened.add (.leaf (.single ']')), rest)
  | _, _ => (opened, body)

/-- A character or an escape among the members of a set. -/
def member? (mode : Mode) : List Char → Option (Escape × List Char)
  | [] => none
  | '\\' :: rest => Escape.read? mode rest
  | character :: rest => some (.character character, rest)

def lone? (mode : Mode) (character : Char) : Option CharSet :=
  if mode.alphabet = .ascii ∧ 128 ≤ character.toNat then none else some (.single character)

def range? (mode : Mode) : Escape → Escape → Option CharSet
  | .character first, .character last =>
      if last.toNat < first.toNat ∨ (mode.alphabet = .ascii ∧ 128 ≤ last.toNat) then none
      else some (.range first last)
  | _, _ => none

/-- A member, or a range between two characters: a hyphen that has no character behind it
stands for itself. -/
def span? (mode : Mode) (characters : List Char) : Option (CharSet × List Char) :=
  match member? mode characters with
  | none => none
  | some (first, rest) =>
      let alone : Option (CharSet × List Char) :=
        match first with
        | .character value => (lone? mode value).map fun set => (set, rest)
        | .set value => some (value, rest)
        | .look _ => none
      match mode.skip rest with
      | '-' :: behind =>
          match mode.skip behind with
          | [] => none
          | ']' :: _ => alone
          | '-' :: _ => alone
          | last =>
              match member? mode last with
              | none => none
              | some (last, tail) => (range? mode first last).map fun set => (set, tail)
      | _ => alone

/-- The members of a set and of those around it, up to the closing bracket of the outermost. -/
def members? (mode : Mode) :
    Nat → List OpenSet → OpenSet → List Char → Option (Nested CharSet × List Char)
  | 0, _, _, _ => none
  | fuel + 1, around, opened, characters =>
      match mode.skip characters with
      | [] => none
      | '[' :: rest =>
          let (inner, body) := openSet mode rest
          members? mode fuel (opened :: around) inner body
      | ']' :: rest =>
          match opened.close? mode, around with
          | none, _ => none
          | some set, [] => some (set, rest)
          | some set, outer :: others => members? mode fuel others (outer.add set) rest
      | '&' :: '&' :: rest => members? mode fuel around (opened.sign mode .both) rest
      | '-' :: '-' :: rest => members? mode fuel around (opened.sign mode .without) rest
      | '~' :: '~' :: rest => members? mode fuel around (opened.sign mode .apart) rest
      | begun =>
          match span? mode begun with
          | some (set, rest) => members? mode fuel around (opened.add (.leaf set)) rest
          | none => none

def set? (mode : Mode) (characters : List Char) : Option (Nested CharSet × List Char) :=
  let (opened, body) := openSet mode characters
  members? mode (characters.length + 1) [] opened body

end RoleGrants.Pattern
