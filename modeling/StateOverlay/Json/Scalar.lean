/-
Words, strings and other scalars of a JSON text.

A string is read in one of two ways.  `string` hands its text back; `skipString` only looks for its
end, and so lets a surrogate stand alone.

* `length_of_string`, `length_of_skipString`, `length_of_skipScalar` — what is left is shorter,
  which is what makes the readers of sequences and maps come to an end.
-/
import StateOverlay.Json.Number

namespace StateOverlay.Json

/-- Whether a character may stand between the parts of a JSON text. -/
def isSpace (c : Char) : Bool := c == ' ' || c == '\n' || c == '\t' || c == '\r'

/-- A text without the spaces it begins with. -/
def skipSpaces (s : Text) : Text := s.dropWhile isSpace

/-- What follows the spaces is no longer than the text. -/
theorem length_skipSpaces (s : Text) : (skipSpaces s).length ≤ s.length :=
  (List.dropWhile_suffix _).length_le

/-- What is read and then turned into something else was read. -/
theorem exists_of_map_eq_ok {ε α β : Type} {f : α → β} {answer : Except ε α} {b : β}
    (h : answer.map f = .ok b) : ∃ a, answer = .ok a ∧ f a = b := by
  cases answer with
  | error fault => cases h
  | ok a => exact ⟨a, rfl, Except.ok.inj h⟩

/-- A fault some bytes into a text. -/
def failAt {α : Type} (problem : Problem) (unread : Text) (past : Nat) : Except Fault α :=
  .error { problem, unread, past }

/-- What follows a word, its first letter being read already. -/
def word : Text → Text → Except Fault Text
  | [], s => .ok s
  | _ :: _, [] => failAt .endInValue [] 0
  | c :: expected, d :: rest =>
    if c = d then word expected rest else failAt .expectedWord (d :: rest) 1

/-- The value of four hexadecimal digits. -/
def hexValue? (digits : Text) : Option Nat :=
  digits.foldl (fun value c => do
    let value ← value
    if c.isDigit then some (value * 16 + (c.toNat - '0'.toNat))
    else if 'a' ≤ c ∧ c ≤ 'f' then some (value * 16 + (c.toNat - 'a'.toNat + 10))
    else if 'A' ≤ c ∧ c ≤ 'F' then some (value * 16 + (c.toNat - 'A'.toNat + 10))
    else none) (some 0)

/-- Reads the digits of an escape by code; four bytes are taken to be digits before any is looked
at. -/
def codeUnit (s : Text) : Except Fault (Nat × Text) :=
  match s with
  | a :: b :: c :: d :: rest =>
    match hexValue? [a, b, c, d] with
    | some value => .ok (value, rest)
    | none => failAt .badEscape s 4
  | _ => if 4 ≤ Text.utf8Size s then failAt .badEscape s 4 else failAt .endInString [] 0

/-- The character that a letter stands for behind a backslash. -/
def shortEscape? : Char → Option Char
  | '"' => some '"'
  | '\\' => some '\\'
  | '/' => some '/'
  | 'b' => some '\x08'
  | 'f' => some '\x0c'
  | 'n' => some '\n'
  | 'r' => some '\r'
  | 't' => some '\t'
  | _ => none

/-- Whether a code unit is the first half of a pair. -/
def isHighSurrogate (unit : Nat) : Bool := 0xD800 ≤ unit && unit ≤ 0xDBFF

/-- Whether a code unit is the second half of a pair. -/
def isLowSurrogate (unit : Nat) : Bool := 0xDC00 ≤ unit && unit ≤ 0xDFFF

/-- The character that two code units stand for together. -/
def pairedChar (high low : Nat) : Char :=
  Char.ofNat (0x10000 + (high - 0xD800) * 0x400 + (low - 0xDC00))

/-- Reads a character written by its code, as one code unit or as a pair. -/
def codedChar (s : Text) : Except Fault (Char × Text) :=
  match codeUnit s with
  | .error fault => .error fault
  | .ok (unit, rest) =>
    if isLowSurrogate unit then failAt .loneSurrogate rest 0
    else if isHighSurrogate unit then
      match rest with
      | [] | ['\\'] => failAt .endInString [] 0
      | '\\' :: 'u' :: rest =>
        match codeUnit rest with
        | .error fault => .error fault
        | .ok (low, rest) =>
          if isLowSurrogate low then .ok (pairedChar unit low, rest)
          else failAt .loneSurrogate rest 0
      | '\\' :: rest => failAt .unfinishedPair rest 1
      | rest => failAt .unfinishedPair rest 1
    else .ok (Char.ofNat unit, rest)

/-- Reads what stands behind a backslash. -/
def escaped : Text → Except Fault (Char × Text)
  | [] => failAt .endInString [] 0
  | 'u' :: rest => codedChar rest
  | c :: rest =>
    match shortEscape? c with
    | some value => .ok (value, rest)
    | none => failAt .badEscape (c :: rest) 1

/-- Skips what stands behind a backslash. -/
def skipEscaped : Text → Except Fault Text
  | [] => failAt .endInString [] 0
  | 'u' :: rest => (codeUnit rest).map Prod.snd
  | c :: rest => if (shortEscape? c).isSome then .ok rest else failAt .badEscape (c :: rest) 1

/-- A code unit leaves less. -/
theorem length_of_codeUnit {s rest : Text} {unit : Nat} (h : codeUnit s = .ok (unit, rest)) :
    rest.length < s.length := by
  simp only [codeUnit] at h
  split at h
  · split at h
    · cases h
      simp only [List.length_cons]
      omega
    · cases h
  · split at h <;> cases h

/-- A character written by its code leaves less. -/
theorem length_of_codedChar {s rest : Text} {c : Char} (h : codedChar s = .ok (c, rest)) :
    rest.length < s.length := by
  simp only [codedChar] at h
  split at h
  · cases h
  · next unit after hunit =>
    have hafter := length_of_codeUnit hunit
    split at h
    · cases h
    · split at h
      · split at h
        · cases h
        · cases h
        · next tail _ =>
          split at h
          · cases h
          · next low hlow =>
            have hlow := length_of_codeUnit hlow
            split at h
            · obtain ⟨-, rfl⟩ := Prod.mk.inj (Except.ok.inj h)
              simp only [List.length_cons] at hafter
              omega
            · cases h
        · cases h
        · cases h
      · obtain ⟨-, rfl⟩ := Prod.mk.inj (Except.ok.inj h)
        exact hafter

/-- An escape leaves less. -/
theorem length_of_escaped {s rest : Text} {c : Char} (h : escaped s = .ok (c, rest)) :
    rest.length < s.length := by
  simp only [escaped] at h
  split at h
  · cases h
  · exact Nat.lt_succ_of_lt (length_of_codedChar h)
  · split at h
    · cases h
      exact Nat.lt_succ_self _
    · cases h

/-- A skipped escape leaves less. -/
theorem length_of_skipEscaped {s rest : Text} (h : skipEscaped s = .ok rest) :
    rest.length < s.length := by
  simp only [skipEscaped] at h
  split at h
  · cases h
  · obtain ⟨⟨unit, after⟩, hunit, rfl⟩ := exists_of_map_eq_ok h
    exact Nat.lt_succ_of_lt (length_of_codeUnit hunit)
  · split at h
    · cases h
      exact Nat.lt_succ_self _
    · cases h

/-- Reads a string whose opening quote is read already. -/
def string : Text → Except Fault (Text × Text)
  | [] => failAt .endInString [] 0
  | c :: rest =>
    if c = '"' then .ok ([], rest)
    else if c = '\\' then
      match _h : escaped rest with
      | .error fault => .error fault
      | .ok (value, rest) => (string rest).map fun (s, rest) => (value :: s, rest)
    else if c.toNat < 0x20 then failAt .controlCharacter (c :: rest) 1
    else (string rest).map fun (s, rest) => (c :: s, rest)
termination_by s => s.length
decreasing_by
  · exact Nat.lt_succ_of_lt (length_of_escaped _h)
  · exact Nat.lt_succ_self _

/-- Skips a string whose opening quote is read already. -/
def skipString : Text → Except Fault Text
  | [] => failAt .endInString [] 0
  | c :: rest =>
    if c = '"' then .ok rest
    else if c = '\\' then
      match _h : skipEscaped rest with
      | .error fault => .error fault
      | .ok rest => skipString rest
    else if c.toNat < 0x20 then failAt .controlCharacter (c :: rest) 0
    else skipString rest
termination_by s => s.length
decreasing_by
  · exact Nat.lt_succ_of_lt (length_of_skipEscaped _h)
  · exact Nat.lt_succ_self _

/-- A word makes no text longer. -/
theorem length_of_word {expected s rest : Text} (h : word expected s = .ok rest) :
    rest.length ≤ s.length := by
  induction expected generalizing s with
  | nil =>
    cases h
    exact Nat.le_refl _
  | cons c expected ih =>
    cases s with
    | nil => cases h
    | cons d s =>
      simp only [word] at h
      split at h
      · exact Nat.le_succ_of_le (ih h)
      · cases h

/-- A string leaves less, because its closing quote is read. -/
theorem length_of_string {s rest value : Text} (h : string s = .ok (value, rest)) :
    rest.length < s.length := by
  fun_induction string s generalizing value rest with
  | case1 => cases h
  | case2 rest' =>
    cases h
    exact Nat.lt_succ_self _
  | case3 => cases h
  | case4 tail value after hescaped _ ih =>
    obtain ⟨⟨values, final⟩, hstring, heq⟩ := exists_of_map_eq_ok h
    obtain ⟨-, rfl⟩ := Prod.mk.inj heq
    exact Nat.lt_succ_of_lt (Nat.lt_trans (ih hstring) (length_of_escaped hescaped))
  | case5 => cases h
  | case6 c tail _ _ _ ih =>
    obtain ⟨⟨values, final⟩, hstring, heq⟩ := exists_of_map_eq_ok h
    obtain ⟨-, rfl⟩ := Prod.mk.inj heq
    exact Nat.lt_succ_of_lt (ih hstring)

/-- A skipped string leaves less. -/
theorem length_of_skipString {s rest : Text} (h : skipString s = .ok rest) :
    rest.length < s.length := by
  fun_induction skipString s generalizing rest with
  | case1 => cases h
  | case2 rest' =>
    cases h
    exact Nat.lt_succ_self _
  | case3 => cases h
  | case4 tail after hescaped _ ih =>
    exact Nat.lt_succ_of_lt (Nat.lt_trans (ih h) (length_of_skipEscaped hescaped))
  | case5 => cases h
  | case6 c tail _ _ _ ih => exact Nat.lt_succ_of_lt (ih h)

/-- Reads the scalar that a text begins with.  A sequence or a map is only looked at. -/
def shape (s : Text) : Except Fault (Shape × Text) :=
  match s with
  | 'n' :: rest => (word "ull".toList rest).map fun rest => (.null, rest)
  | 't' :: rest => (word "rue".toList rest).map fun rest => (.boolean true, rest)
  | 'f' :: rest => (word "alse".toList rest).map fun rest => (.boolean false, rest)
  | '"' :: rest => (string rest).map fun (value, rest) => (.string value, rest)
  | '[' :: _ => .ok (.sequence, s)
  | '{' :: _ => .ok (.map, s)
  | [] => failAt .endInValue [] 0
  | c :: _ =>
    if c = '-' ∨ c.isDigit then do
      let (numeral, rest) ← Numeral.read .endInValue s
      let shape ← numeral.shape rest
      return (shape, rest)
    else failAt .expectedValue s 1

/-- The fault of a text that begins with a value of another kind than the expected one. -/
def misfit (expected s : Text) : Fault :=
  match shape s with
  | .error fault => fault
  | .ok (found, rest) => { problem := .wrongShape found expected, unread := rest }

/-- Skips the scalar that a text begins with. -/
def skipScalar (s : Text) : Except Fault Text :=
  match s with
  | 'n' :: rest => word "ull".toList rest
  | 't' :: rest => word "rue".toList rest
  | 'f' :: rest => word "alse".toList rest
  | '"' :: rest => skipString rest
  | [] => failAt .endInValue [] 0
  | c :: _ =>
    if c = '-' ∨ c.isDigit then (Numeral.read .badNumber s).map Prod.snd
    else failAt .expectedValue s 1

/-- A skipped scalar leaves less. -/
theorem length_of_skipScalar {s rest : Text} (h : skipScalar s = .ok rest) :
    rest.length < s.length := by
  simp only [skipScalar] at h
  split at h
  · exact Nat.lt_succ_of_le (length_of_word h)
  · exact Nat.lt_succ_of_le (length_of_word h)
  · exact Nat.lt_succ_of_le (length_of_word h)
  · exact Nat.lt_succ_of_lt (length_of_skipString h)
  · cases h
  · next c tail _ _ _ _ =>
    split at h
    · obtain ⟨⟨numeral, after⟩, hread, rfl⟩ := exists_of_map_eq_ok h
      exact Numeral.length_of_read hread
    · cases h

end StateOverlay.Json
