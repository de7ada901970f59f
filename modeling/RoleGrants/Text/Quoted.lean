import RoleGrants.Text.Unprintable

/-! # Quoted texts

A text in double quotes for a message.  A quote and a backslash are escaped by
a backslash, the null character, the tab and the two line ends by a letter, and
every other character without a glyph of its own by its code point. -/

set_option autoImplicit false

namespace RoleGrants.Text

def hexDigits (number : Nat) : List Char :=
  Nat.toDigits 16 number

def escapeChar (character : Char) : List Char :=
  if character = Char.ofNat 0 then ['\\', '0']
  else if character = '\t' then ['\\', 't']
  else if character = '\r' then ['\\', 'r']
  else if character = '\n' then ['\\', 'n']
  else if character = '\\' then ['\\', '\\']
  else if character = Char.ofNat 0x22 then ['\\', character]
  else if isUnprintable character then
    ['\\', 'u', Char.ofNat 0x7B] ++ hexDigits character.toNat ++ [Char.ofNat 0x7D]
  else [character]

def braced (text : String) : String :=
  "\x7b " ++ text ++ " \x7d"

def quote (text : String) : String :=
  "\"" ++ String.ofList (text.toList.flatMap escapeChar) ++ "\""

end RoleGrants.Text
