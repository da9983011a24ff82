/-
Quoted texts, as they stand in log lines and in messages about a value of the wrong kind.

A quoted text stands between double quotes.  The quote, the backslash and the common controls have
short escapes, and every other hidden character is written by its code point.
-/
import StateOverlay.Text.Hidden

namespace StateOverlay.Text

/-- One character of a quoted text. -/
def quotedChar (c : Char) : Text :=
  match c with
  | '\x00' => ['\\', '0']
  | '\t' => ['\\', 't']
  | '\n' => ['\\', 'n']
  | '\r' => ['\\', 'r']
  | '"' => ['\\', '"']
  | '\\' => ['\\', '\\']
  | _ => if isHidden c then ['\\', 'u', '\x7b'] ++ Nat.toDigits 16 c.toNat ++ ['\x7d'] else [c]

/-- A text between double quotes, with its hidden characters escaped. -/
def quoted (s : Text) : Text := ['"'] ++ s.flatMap quotedChar ++ ['"']

/-- A list of quoted texts between brackets. -/
def quotedList (texts : List Text) : Text :=
  ['['] ++ [',', ' '].intercalate (texts.map quoted) ++ [']']

end StateOverlay.Text
