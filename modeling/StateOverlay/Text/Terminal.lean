/-
What a terminal would show of a text.

A text may hold controls and control sequences: an escape character opens a sequence, what follows
says of which kind it is, and the sequence ends where its kind says so.  Nothing of a sequence is
shown, nor is a control outside of one, white space aside.

* `shown` — the part of a text that is shown;
* `shown_eq_self` — a text without controls is shown as it is.

Design notes: white space is shown even inside a control sequence that may hold controls.  What
follows it is shown too, up to the next control, and only then does the open sequence go on; so the
state keeps the open sequence and whether it is interrupted.
-/
import StateOverlay.Text.Basic

namespace StateOverlay.Text

/-- A control sequence that is open. -/
inductive Sequence where
  /-- None is open. -/
  | ground
  /-- An escape character was read. -/
  | escape
  /-- An escape character and then an intermediate one. -/
  | escapeMore
  /-- A control sequence in the narrow sense, which ends with a letter or the like. -/
  | control
  /-- The head of a device control string. -/
  | deviceHead
  /-- The parameters of a device control string. -/
  | deviceParameters
  /-- The intermediate characters of a device control string. -/
  | deviceMore
  /-- A string that runs up to a string terminator. -/
  | string
  /-- A command to the operating system, which ends with a bell. -/
  | command
deriving DecidableEq

namespace Sequence

/-- Whether controls keep their meaning inside a sequence. -/
def obeysControls : Sequence → Bool
  | .ground | .escape | .escapeMore | .control => true
  | _ => false

/-- The sequence that an escape character and a character behind it open. -/
def afterEscape (c : Char) : Sequence :=
  if c.toNat < 0x20 ∨ c = '\x7f' then .escape
  else if c.toNat < 0x30 then .escapeMore
  else if c = '[' then .control
  else if c = ']' then .command
  else if c = 'P' then .deviceHead
  else if c = 'X' ∨ c = '^' ∨ c = '_' then .string
  else .ground

/-- What an open sequence is behind an ASCII character that is not shown. -/
def next (sequence : Sequence) (c : Char) : Sequence :=
  -- three characters have their meaning everywhere: escape, cancel and substitute
  if c = '\x1b' then .escape
  else if c = '\x18' ∨ c = '\x1a' then .ground
  else
    match sequence with
    | .ground => .ground
    | .escape => afterEscape c
    | .escapeMore => if c.toNat < 0x30 ∨ c = '\x7f' then .escapeMore else .ground
    | .control => if 0x40 ≤ c.toNat ∧ c ≠ '\x7f' then .ground else .control
    | .deviceHead =>
      if c.toNat < 0x20 ∨ c = '\x7f' then .deviceHead
      else if c.toNat < 0x30 then .deviceMore
      else if c.toNat < 0x40 then .deviceParameters
      else .string
    | .deviceParameters =>
      if c.toNat < 0x20 ∨ c = '\x7f' then .deviceParameters
      else if c.toNat < 0x30 then .deviceMore
      else if c.toNat < 0x3C then .deviceParameters
      else .string
    | .deviceMore => if c.toNat < 0x30 ∨ c = '\x7f' then .deviceMore else .string
    | .string => .string
    | .command => if c = '\x07' then .ground else .command

/-- What an open sequence is behind a character beyond ASCII.  The string terminator is a byte, and
it ends a string also where it is one of the bytes of such a character. -/
def nextBeyond (sequence : Sequence) (c : Char) : Sequence :=
  match sequence with
  | .string => if (String.utf8EncodeChar c).contains 0x9C then .ground else .string
  | _ => sequence

end Sequence

/-- Whether a character is ASCII. -/
def isAscii (c : Char) : Bool := c.toNat < 0x80

/-- Whether a character is a control that is shown as white space. -/
def isBlankControl (c : Char) : Bool := c == '\t' || c == '\n' || c == '\x0c' || c == '\r'

/-- Whether a character is an ASCII control. -/
def isControl (c : Char) : Bool := c.toNat < 0x20 || c == '\x7f'

/-- What is shown of a text while a sequence is open or, if it is interrupted, waits. -/
def shownIn (sequence : Sequence) (interrupted : Bool) : Text → Text
  | [] => []
  | c :: rest =>
    if isBlankControl c ∧ (interrupted ∨ sequence.obeysControls) then
      c :: shownIn sequence true rest
    else if isControl c ∨ ¬ (interrupted ∨ sequence = .ground) then
      shownIn (if isAscii c then sequence.next c else sequence.nextBeyond c) false rest
    else c :: shownIn (if isAscii c then sequence else .ground) true rest

/-- What a terminal shows of a text. -/
def shown (s : Text) : Text := shownIn .ground false s

/-- A text without controls is shown as it is. -/
theorem shown_eq_self {s : Text} (h : ∀ c ∈ s, isControl c = false) : shown s = s := by
  suffices ∀ interrupted, shownIn .ground interrupted s = s from this false
  induction s with
  | nil => exact fun _ => rfl
  | cons c rest ih =>
    intro interrupted
    have hc := h c (List.mem_cons_self ..)
    have hrest := ih fun x hx => h x (List.mem_cons_of_mem _ hx)
    simp only [shownIn, hc, hrest, ite_self]
    simp

end StateOverlay.Text
