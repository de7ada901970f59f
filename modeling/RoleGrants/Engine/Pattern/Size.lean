import RoleGrants.Engine.Pattern.Basic
import RoleGrants.Engine.Pattern.Ranges
import RoleGrants.Text.Spelling

/-! # The size of a pattern

A pattern is compiled twice, to be followed forwards and backwards, into states
of thirty-two bytes each over the bytes of a text.  Repetitions are written out.
`size` counts the bytes of the states and of the ways that lead on from them;
what alternatives have in common it counts for each of them, so that it may
count too much near the limit (`Pattern.IsModest`). -/

set_option autoImplicit false

namespace RoleGrants.Pattern

open Text (Spelling)

inductive Direction where
  | forwards
  | backwards
  deriving DecidableEq, Repr

def total (sizes : List Nat) : Nat :=
  sizes.foldl (· + ·) 0

/-! ## Sets -/

def branches : List Spelling → List ((Nat × Nat) × List Spelling)
  | [] => []
  | [] :: rest => branches rest
  | (head :: tail) :: rest =>
      match branches rest with
      | (other, tails) :: more =>
          if other = head then (head, tail :: tails) :: more
          else (head, [tail]) :: (other, tails) :: more
      | [] => [(head, [tail])]

/-- What is still to be spelled, at every place within so many bytes. -/
def unfinished : Nat → List Spelling → List (List Spelling)
  | 0, _ => []
  | bytes + 1, spellings =>
      if spellings.all List.isEmpty then []
      else spellings :: (branches spellings).flatMap fun branch => unfinished bytes branch.2

/-- Forwards, places with the same to come are one state. -/
def forwardSize (spellings : List Spelling) : Nat :=
  32 + total ((unfinished 4 spellings).eraseDups.map fun place =>
    32 + 8 * (branches place).length)

/-- Backwards, spellings share the states of what they begin with. -/
def backwardSize (spellings : List Spelling) : Nat :=
  64 + 4 * spellings.length +
    total ((unfinished 4 spellings).map fun place => 32 * (branches place).length)

def setSize (direction : Direction) (set : CharSet) : Nat :=
  let spellings := Text.spellings set.ranges
  if spellings.isEmpty then 32
  else if spellings.length = 1 ∧ spellings.flatten.all fun range => range.1 == range.2 then
    32 * spellings.flatten.length
  else if spellings.all fun spelling => spelling.length = 1 then 64 + 8 * spellings.length
  else
    match direction with
    | .forwards => forwardSize spellings
    | .backwards => backwardSize spellings

/-! ## Patterns -/

/-- Nothing in the pattern reads a character. -/
def readsNothing : Pattern → Bool
  | .empty => true
  | .one _ => false
  | .look _ => true
  | .group body => body.readsNothing
  | .both first second => first.readsNothing && second.readsNothing
  | .either left right => left.readsNothing && right.readsNothing
  | .many body _ most => body.readsNothing || most == some 0

def mayReadNothing : Pattern → Bool
  | .empty => true
  | .one _ => false
  | .look _ => true
  | .group body => body.mayReadNothing
  | .both first second => first.mayReadNothing && second.mayReadNothing
  | .either left right => left.mayReadNothing || right.mayReadNothing
  | .many body least _ => least == 0 || body.mayReadNothing

/-- Alternatives of one character each are one set. -/
def asSet? : Pattern → Option CharSet
  | .one set => some set
  | .both first .empty => first.asSet?
  | .either left right =>
      match left.asSet?, right.asSet? with
      | some set, some other => some (.either set other)
      | _, _ => none
  | _ => none

def isEither : Pattern → Bool
  | .either _ _ => true
  | _ => false

/-- A part that has vanished from its row still takes a state where it stands alone. -/
def alone (size : Nat) : Nat :=
  if size = 0 then 32 else size

def manySize (size : Nat) (mayReadNothing : Bool) : Nat → Option Nat → Nat
  -- A state that leads two ways takes forty bytes, and one that leads nowhere else thirty-two.
  | 0, none => alone size + if mayReadNothing then 112 else 40
  | least + 1, none => (least + 1) * alone size + 40
  | 0, some 0 => 0
  | 0, some 1 => alone size + 72
  | least, some most =>
      if least = most then if most = 1 then size else most * alone size
      else most * alone size + (most - least) * 40 + 32 + if least = 0 then 32 else 0

def size (direction : Direction) : Pattern → Nat
  | .empty => 0
  | .one set => setSize direction set
  | .look _ => 32
  | .group body =>
      alone (body.size direction) + if direction = .forwards then 64 else 0
  | .both first second => first.size direction + second.size direction
  | .either left right =>
      match (Pattern.either left right).asSet? with
      | some set => setSize direction set
      | none =>
          alone (left.size direction) + alone (right.size direction) +
            if right.isEither then 4 else 72
  | .many body least most =>
      if body.readsNothing then
        manySize (body.size direction) true (min least 1) (some (min (most.getD 1) 1))
      else manySize (body.size direction) body.mayReadNothing least most

/-- The states before and behind a pattern, which begin and end a match. -/
def frameSize : Nat := 208

def greatestSize : Nat := 10485760

def sizes (pattern : Pattern) : List Nat :=
  [frameSize + pattern.size .forwards, frameSize + pattern.size .backwards]

def fits (pattern : Pattern) : Bool :=
  pattern.sizes.all fun size => size ≤ greatestSize

/-- The pattern takes an eighth of the room at most, so that it fits however it is counted. -/
def IsModest (pattern : Pattern) : Prop :=
  ∀ size ∈ pattern.sizes, 8 * size ≤ greatestSize

instance (pattern : Pattern) : Decidable pattern.IsModest :=
  List.decidableBAll _ _

theorem IsModest.fits {pattern : Pattern} (modest : pattern.IsModest) : pattern.fits = true := by
  rw [Pattern.fits, List.all_eq_true]
  intro size member
  have eighth := modest size member
  rw [decide_eq_true_eq]
  omega

end RoleGrants.Pattern
