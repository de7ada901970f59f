import RoleGrants.Engine.Basic
import RoleGrants.Signal.Basic

/-! # Generations

A generation is one engine with the marker that its pass was started for, the
number of its lines and the time of its making.  The handle holds the current
generation and counts those that it has installed; a generation put there with
an id of its own is not counted.  Whoever holds a generation keeps using it
after another has taken its place. -/

set_option autoImplicit false

namespace RoleGrants

structure Generation where
  id : Nat
  signal : Option Marker
  lines : Nat
  builtAt : Marker
  engine : Engine

namespace Generation

def optionText {α : Type} (text : α → String) : Option α → String
  | some value => "Some(" ++ text value ++ ")"
  | none => "None"

def debug (generation : Generation) (builtAt : String) : String :=
  "Generation " ++ Text.braced ("id: " ++ toString generation.id ++ ", signal: " ++
    optionText Marker.text generation.signal ++ ", lines: " ++ toString generation.lines ++
    ", built_at: " ++ builtAt ++ ", ..")

end Generation

structure Handle where
  current : Option Generation := none
  installed : Nat := 0

namespace Handle

def isLoaded (handle : Handle) : Bool :=
  handle.current.isSome

def swap (handle : Handle) (generation : Generation) : Handle × Option Generation :=
  ({ handle with current := some generation }, handle.current)

def install (handle : Handle) (engine : Engine) (signal : Option Marker) (lines : Nat)
    (time : Marker) : Handle × Generation :=
  let generation : Generation := ⟨handle.installed + 1, signal, lines, time, engine⟩
  let counted := { handle with installed := handle.installed + 1 }
  ((counted.swap generation).1, generation)

end Handle

end RoleGrants
