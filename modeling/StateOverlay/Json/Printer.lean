/-
JSON values and their text.

A value is written over several lines, its items indented by two spaces more than their bracket; an
empty list or object is two brackets.  A string escapes the quote, the backslash and the controls,
and leaves every other character as it is.
-/
import StateOverlay.Text.Basic

namespace StateOverlay.Json

/-- A JSON value without fractions and nulls. -/
inductive Value where
  | text (s : Text)
  | number (n : Nat)
  | boolean (b : Bool)
  | list (items : List Value)
  | object (members : List (Text × Value))

/-- One character of a string. -/
def escapedChar (c : Char) : Text :=
  match c with
  | '"' => ['\\', '"']
  | '\\' => ['\\', '\\']
  | '\x08' => ['\\', 'b']
  | '\x0c' => ['\\', 'f']
  | '\n' => ['\\', 'n']
  | '\r' => ['\\', 'r']
  | '\t' => ['\\', 't']
  | _ =>
    if c.toNat < 0x20 then
      ['\\', 'u', '0', '0', Nat.digitChar (c.toNat / 16), Nat.digitChar (c.toNat % 16)]
    else [c]

/-- A string with its quotes. -/
def stringText (s : Text) : Text := ['"'] ++ s.flatMap escapedChar ++ ['"']

/-- The line break in front of an item at some depth. -/
def newline (depth : Nat) : Text := '\n' :: List.replicate (2 * depth) ' '

mutual

/-- The text of a value whose bracket stands at some depth. -/
def Value.render (depth : Nat) : Value → Text
  | .text s => stringText s
  | .number n => Text.ofNat n
  | .boolean true => "true".toList
  | .boolean false => "false".toList
  | .list [] => "[]".toList
  | .list (item :: items) =>
    ['['] ++ newline (depth + 1) ++ item.render (depth + 1) ++ renderItems (depth + 1) items ++
      newline depth ++ [']']
  | .object [] => ['{', '}']
  | .object ((key, value) :: members) =>
    ['{'] ++ newline (depth + 1) ++ stringText key ++ [':', ' '] ++ value.render (depth + 1) ++
      renderMembers (depth + 1) members ++ newline depth ++ ['}']

/-- The text of the items behind the first one. -/
def renderItems (depth : Nat) : List Value → Text
  | [] => []
  | item :: items => [','] ++ newline depth ++ item.render depth ++ renderItems depth items

/-- The text of the members behind the first one. -/
def renderMembers (depth : Nat) : List (Text × Value) → Text
  | [] => []
  | (key, value) :: members =>
    [','] ++ newline depth ++ stringText key ++ [':', ' '] ++ value.render depth ++
      renderMembers depth members

end

end StateOverlay.Json
