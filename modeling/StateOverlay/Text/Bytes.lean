/-
Strings of bytes.

The paths and the arguments that a system hands over are strings of bytes.  Most of them are the
UTF-8 form of a text, but they need not be:

* `Text.bytes` — the UTF-8 form of a text;
* `Bytes.text?` — the text that some bytes are the form of;
* `Bytes.text?_eq_some_iff` — it is the only one;
* `Bytes.shown` — some bytes as messages show them, whether they are a text or not.
-/
import StateOverlay.Text.Basic

namespace StateOverlay

/-- A string of bytes. -/
abbrev Bytes := List UInt8

/-- The UTF-8 form of a text. -/
def Text.bytes (s : Text) : Bytes := s.flatMap String.utf8EncodeChar

theorem Text.bytes_append (s t : Text) : bytes (s ++ t) = bytes s ++ bytes t := List.flatMap_append

namespace Bytes

/-- The text that some bytes are the UTF-8 form of, if they are. -/
def text? (bytes : Bytes) : Option Text := (String.fromUTF8? ⟨bytes.toArray⟩).map String.toList

/-- The bytes of a string are those of its text. -/
theorem toByteArray_ofList (s : Text) : (String.ofList s).toByteArray = ⟨s.bytes.toArray⟩ :=
  ByteArray.ext List.data_toByteArray

/-- Some bytes are the form of one text at most. -/
theorem text?_eq_some_iff {bytes : Bytes} {s : Text} : text? bytes = some s ↔ s.bytes = bytes := by
  rw [text?, Option.map_eq_some_iff]
  constructor
  · rintro ⟨t, ht, rfl⟩
    rw [String.fromUTF8?] at ht
    split at ht
    · case isTrue hvalid =>
      cases ht
      have hbytes := toByteArray_ofList (String.fromUTF8 ⟨bytes.toArray⟩ hvalid).toList
      rw [String.ofList_toList] at hbytes
      exact (Array.toList_inj.mpr (congrArg ByteArray.data hbytes)).symm
    · cases ht
  · rintro rfl
    have hvalid := (String.ofList s).isValidUTF8
    rw [toByteArray_ofList] at hvalid
    refine ⟨String.ofList s, ?_, String.toList_ofList⟩
    rw [String.fromUTF8?, dif_pos hvalid]
    exact congrArg some (String.toByteArray_inj.mp (toByteArray_ofList s).symm)

/-! ### Bytes that are no text -/

/-- A character of which some bytes were read: its number so far, how many bytes are to come, and
the range of the next of them. -/
structure Begun where
  number : Nat
  missing : Nat
  least : Nat := 0x80
  greatest : Nat := 0xBF

/-- The character that a byte beyond ASCII begins.  The second byte of some has a narrower range, so
that no character has two forms, none is a surrogate and none is too large. -/
def begun? (byte : Nat) : Option Begun :=
  if byte < 0xC2 then none
  else if byte < 0xE0 then some { number := byte - 0xC0, missing := 1 }
  else if byte = 0xE0 then some { number := 0, missing := 2, least := 0xA0 }
  else if byte = 0xED then some { number := 0xD, missing := 2, greatest := 0x9F }
  else if byte < 0xF0 then some { number := byte - 0xE0, missing := 2 }
  else if byte = 0xF0 then some { number := 0, missing := 3, least := 0x90 }
  else if byte < 0xF4 then some { number := byte - 0xF0, missing := 3 }
  else if byte = 0xF4 then some { number := 4, missing := 3, greatest := 0x8F }
  else none

/-- What stands for bytes that are no character. -/
def replacement : Char := '\uFFFD'

/-- What a byte comes to where a character may begin: what is shown for it, and the character that
it begins. -/
def first (byte : Nat) : Text × Option Begun :=
  if byte < 0x80 then ([Char.ofNat byte], none)
  else
    match begun? byte with
    | some begun => ([], some begun)
    | none => ([replacement], none)

/-- What a byte comes to behind a character that is begun.  If it does not belong there, the bytes
read so far are shown as one replacement. -/
def next (begun : Begun) (byte : Nat) : Text × Option Begun :=
  if begun.least ≤ byte ∧ byte ≤ begun.greatest then
    let number := begun.number * 64 + (byte - 0x80)
    if begun.missing = 1 then ([Char.ofNat number], none)
    else ([], some { number, missing := begun.missing - 1 })
  else
    let (shown, other) := first byte
    (replacement :: shown, other)

/-- What is shown of some bytes behind a character that may be begun. -/
def shownFrom : Option Begun → Bytes → Text
  | begun, [] => if begun.isSome then [replacement] else []
  | begun, byte :: rest =>
    let (shown, begun) :=
      match begun with
      | some begun => next begun byte.toNat
      | none => first byte.toNat
    shown ++ shownFrom begun rest

/-- Some bytes as messages show them: the text that they are or, if they are none, what can be read
of it. -/
def shown (bytes : Bytes) : Text := (text? bytes).getD (shownFrom none bytes)

/-- The form of a text is shown as the text. -/
theorem shown_bytes (s : Text) : shown s.bytes = s := by
  rw [shown, text?_eq_some_iff.mpr rfl, Option.getD_some]

end Bytes

end StateOverlay
