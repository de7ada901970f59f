import RoleGrants.Yaml.Token

/-! # Nodes of YAML texts

A node is a scalar with its tag, a list of nodes, or pairs of nodes.  A node that is
left out is the empty plain scalar.  An alias stands for the node of its anchor.

`Node.ofText?` reads a text that holds at most one document; the text without
any is the empty scalar. -/

set_option autoImplicit false

namespace RoleGrants.Yaml

inductive Node where
  | scalar (text : String) (style : Style) (tag : Option String)
  | list (items : List Node)
  | map (entries : List (Node × Node))
  deriving Inhabited, Repr

namespace Node

def blank : Node :=
  .scalar "" .plain none

end Node

structure Remaining where
  tokens : List Token
  anchors : List (String × Node) := []

namespace Remaining

def drop (remaining : Remaining) : Remaining :=
  { remaining with tokens := remaining.tokens.tail }

def name (remaining : Remaining) (anchor : Option String) (node : Node) : Remaining :=
  match anchor with
  | some key => { remaining with anchors := (key, node) :: remaining.anchors }
  | none => remaining

def isAt (remaining : Remaining) (tokens : List Token) : Bool :=
  match remaining.tokens with
  | token :: _ => tokens.contains token
  | [] => true

end Remaining

def properties : Remaining → Option String × Option String × Remaining
  | ⟨.anchor name :: .tag kind :: rest, anchors⟩ => (some name, some kind, ⟨rest, anchors⟩)
  | ⟨.tag kind :: .anchor name :: rest, anchors⟩ => (some name, some kind, ⟨rest, anchors⟩)
  | ⟨.anchor name :: rest, anchors⟩ => (some name, none, ⟨rest, anchors⟩)
  | ⟨.tag kind :: rest, anchors⟩ => (none, some kind, ⟨rest, anchors⟩)
  | remaining => (none, none, remaining)

structure Position where
  block : Bool
  entries : Bool := false

mutual

def node : Nat → Position → Remaining → Option (Node × Remaining)
  | 0, _, _ => none
  | fuel + 1, position, start =>
      match start.tokens with
      | .alias key :: _ => (start.anchors.lookup key).map fun named => (named, start.drop)
      | _ =>
          let (anchor, tag, remaining) := properties start
          let content := match remaining.tokens with
            | .blockEntry :: _ =>
                if position.entries then entries fuel [] remaining else none
            -- The exclamation mark alone names no kind.
            | .scalar text style :: _ =>
                some (.scalar text style (tag.filter (· != "!")), remaining.drop)
            | .flowSequenceStart :: _ => flowItems fuel true [] remaining.drop
            | .flowMappingStart :: _ => flowPairs fuel true [] remaining.drop
            | .blockSequenceStart :: _ =>
                if position.block then blockItems fuel [] remaining.drop else none
            | .blockMappingStart :: _ =>
                if position.block then blockPairs fuel [] remaining.drop else none
            | _ => none
          match content with
          | some (value, rest) => some (value, rest.name anchor value)
          | none =>
              let isContent := match remaining.tokens with
                | .blockEntry :: _ => position.entries
                | .scalar _ _ :: _ => true
                | .flowSequenceStart :: _ => true
                | .flowMappingStart :: _ => true
                | .blockSequenceStart :: _ => position.block
                | .blockMappingStart :: _ => position.block
                | _ => false
              let empty := Node.scalar "" .plain tag
              if (anchor.isSome || tag.isSome) && !isContent then
                some (empty, remaining.name anchor empty)
              else none

/-- A node, or the blank one before a token that ends it. -/
def nodeBefore (fuel : Nat) (position : Position) (ends : List Token) (remaining : Remaining) :
    Option (Node × Remaining) :=
  match fuel with
  | 0 => none
  | fuel + 1 =>
      if remaining.isAt ends then some (.blank, remaining) else node fuel position remaining

def entries : Nat → List Node → Remaining → Option (Node × Remaining)
  | 0, _, _ => none
  | fuel + 1, items, remaining =>
      match remaining.tokens with
      | .blockEntry :: _ =>
          match nodeBefore fuel ⟨true, false⟩ [.blockEntry, .key, .value, .blockEnd]
              remaining.drop with
          | some (item, rest) => entries fuel (item :: items) rest
          | none => none
      | _ => some (.list items.reverse, remaining)

def blockItems : Nat → List Node → Remaining → Option (Node × Remaining)
  | 0, _, _ => none
  | fuel + 1, items, remaining =>
      match remaining.tokens with
      | .blockEntry :: _ =>
          match nodeBefore fuel ⟨true, false⟩ [.blockEntry, .blockEnd] remaining.drop with
          | some (item, rest) => blockItems fuel (item :: items) rest
          | none => none
      | .blockEnd :: _ => some (.list items.reverse, remaining.drop)
      | _ => none

/-- The value of a pair in a block; without a colon it is blank. -/
def blockValue (fuel : Nat) (remaining : Remaining) : Option (Node × Remaining) :=
  match fuel with
  | 0 => none
  | fuel + 1 =>
      match remaining.tokens with
      | .value :: _ => nodeBefore fuel ⟨true, true⟩ [.key, .value, .blockEnd] remaining.drop
      | _ => some (.blank, remaining)

def blockPairs : Nat → List (Node × Node) → Remaining → Option (Node × Remaining)
  | 0, _, _ => none
  | fuel + 1, pairs, remaining =>
      match remaining.tokens with
      | .key :: _ =>
          match nodeBefore fuel ⟨true, true⟩ [.key, .value, .blockEnd] remaining.drop with
          | none => none
          | some (key, rest) =>
              match blockValue fuel rest with
              | none => none
              | some (value, after) => blockPairs fuel ((key, value) :: pairs) after
      | .blockEnd :: _ => some (.map pairs.reverse, remaining.drop)
      | _ => none

def flowValue (fuel : Nat) (ends : Token) (remaining : Remaining) : Option (Node × Remaining) :=
  match fuel with
  | 0 => none
  | fuel + 1 =>
      match remaining.tokens with
      | .value :: _ => nodeBefore fuel ⟨false, false⟩ [.flowEntry, ends] remaining.drop
      | _ => some (.blank, remaining)

def flowItems : Nat → Bool → List Node → Remaining → Option (Node × Remaining)
  | 0, _, _, _ => none
  | fuel + 1, first, items, remaining =>
      match remaining.tokens with
      | .flowSequenceEnd :: _ => some (.list items.reverse, remaining.drop)
      | token :: _ =>
          if !first && token != .flowEntry then none
          else
            let start := if first then remaining else remaining.drop
            match start.tokens with
            | .flowSequenceEnd :: _ => some (.list items.reverse, start.drop)
            | .key :: _ =>
                let key := if start.drop.isAt [.value, .flowEntry, .flowSequenceEnd] then
                    some (.blank, start.drop.drop)
                  else node fuel ⟨false, false⟩ start.drop
                match key with
                | none => none
                | some (name, rest) =>
                    match flowValue fuel .flowSequenceEnd rest with
                    | none => none
                    | some (value, after) =>
                        flowItems fuel false (.map [(name, value)] :: items) after
            | _ =>
                match node fuel ⟨false, false⟩ start with
                | none => none
                | some (item, rest) => flowItems fuel false (item :: items) rest
      | [] => none

def flowPairs : Nat → Bool → List (Node × Node) → Remaining → Option (Node × Remaining)
  | 0, _, _, _ => none
  | fuel + 1, first, pairs, remaining =>
      match remaining.tokens with
      | .flowMappingEnd :: _ => some (.map pairs.reverse, remaining.drop)
      | token :: _ =>
          if !first && token != .flowEntry then none
          else
            let start := if first then remaining else remaining.drop
            match start.tokens with
            | .flowMappingEnd :: _ => some (.map pairs.reverse, start.drop)
            | .key :: _ =>
                match nodeBefore fuel ⟨false, false⟩ [.value, .flowEntry, .flowMappingEnd]
                    start.drop with
                | none => none
                | some (key, rest) =>
                    match flowValue fuel .flowMappingEnd rest with
                    | none => none
                    | some (value, after) => flowPairs fuel false ((key, value) :: pairs) after
            | _ =>
                match node fuel ⟨false, false⟩ start with
                | none => none
                | some (key, rest) => flowPairs fuel false ((key, .blank) :: pairs) rest
      | [] => none

end

def document? (tokens : List Token) : Option Node :=
  let fuel := 4 * tokens.length + 8
  let content (rest : List Token) : Option (Node × Remaining) :=
    nodeBefore fuel ⟨true, false⟩ [.directive, .documentStart, .documentEnd] ⟨rest, []⟩
  let isEnded (remaining : Remaining) : Bool :=
    (remaining.tokens.dropWhile (· == .documentEnd)).isEmpty
  let read := match tokens with
    | [] => some (.blank, ⟨[], []⟩)
    | .directive :: .documentStart :: rest => content rest
    | .directive :: _ => none
    | .documentStart :: rest => content rest
    | _ => node fuel ⟨true, false⟩ ⟨tokens, []⟩
  match read with
  | some (value, remaining) => if isEnded remaining then some value else none
  | none => none

def Node.ofText? (text : String) : Option Node :=
  (tokens? text).bind document?

end RoleGrants.Yaml
