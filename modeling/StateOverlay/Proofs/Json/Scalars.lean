/-
Reading what the grammar of scalars allows.

However a string is spelled, it is read as the text that it spells, and what stands behind it is
left.  The same holds of a number, if what stands behind it could not go on with it:

* `SpellsUnit.codeUnit`, `SpellsChar.string`, `SpellsText.string` — strings are read as they are
  spelled;
* `SpellsText.skipString` — and skipped;
* `Delimits`, `IsNumeral.exists_read` — a number is read up to what cannot go on with it;
* `IsNumeral.skipScalar` — and skipped.
-/
import Mathlib.Tactic.IntervalCases
import StateOverlay.Proofs.Json.Grammar

namespace StateOverlay.Json

/-! ### Strings -/

/-- A hexadecimal digit adds its value to those in front of it. -/
theorem IsHexDigit.step {value : Fin 16} {c : Char} (h : IsHexDigit value c) (n : Nat) :
    (if c.isDigit then some (n * 16 + (c.toNat - '0'.toNat))
      else if 'a' ≤ c ∧ c ≤ 'f' then some (n * 16 + (c.toNat - 'a'.toNat + 10))
      else if 'A' ≤ c ∧ c ≤ 'F' then some (n * 16 + (c.toNat - 'A'.toNat + 10))
      else none) = some (n * 16 + value) := by
  obtain ⟨value, hvalue⟩ := value
  interval_cases value <;> rcases h with rfl | rfl <;> simp +decide

theorem SpellsUnit.codeUnit {unit : Nat} {digits : Text} (h : SpellsUnit unit digits)
    (rest : Text) : codeUnit (digits ++ rest) = .ok (unit, rest) := by
  obtain @⟨a, b, c, d, w, x, y, z, ha, hb, hc, hd⟩ := h
  have hvalue : hexValue? [w, x, y, z] = some (((a * 16 + b) * 16 + c) * 16 + d : Nat) := by
    simp only [hexValue?, List.foldl_cons, List.foldl_nil, Option.bind_eq_bind, Option.bind_some]
    rw [ha.step, Option.bind_some, hb.step, Option.bind_some, hc.step, Option.bind_some, hd.step,
      Nat.zero_mul, Nat.zero_add]
  simp only [Json.codeUnit, List.cons_append, List.nil_append, hvalue]

/-- The code of a character is that of no half of a pair. -/
theorem not_isSurrogate (c : Char) :
    isLowSurrogate c.toNat = false ∧ isHighSurrogate c.toNat = false := by
  have hvalid : c.toNat < 0xD800 ∨ 0xDFFF < c.toNat ∧ c.toNat < 0x110000 := c.valid
  simp only [isLowSurrogate, isHighSurrogate, Bool.and_eq_false_iff, decide_eq_false_iff_not]
  omega

/-- What stands behind a backslash is read as the character that it stands for. -/
theorem SpellsChar.escaped {c : Char} {body : Text} (h : SpellsChar c ('\\' :: body))
    (rest : Text) : escaped (body ++ rest) = .ok (c, rest) := by
  cases h with
  | plain _ hbackslash _ => exact absurd rfl hbackslash
  | letter h =>
    simp only [shortEscapes, List.mem_cons, List.not_mem_nil, or_false, Prod.mk.injEq] at h
    rcases h with ⟨rfl, rfl⟩ | ⟨rfl, rfl⟩ | ⟨rfl, rfl⟩ | ⟨rfl, rfl⟩ | ⟨rfl, rfl⟩ | ⟨rfl, rfl⟩ |
      ⟨rfl, rfl⟩ | ⟨rfl, rfl⟩ <;> rfl
  | @code digits h =>
    obtain ⟨hlow, hhigh⟩ := not_isSurrogate c
    show codedChar (digits ++ rest) = _
    rw [codedChar, h.codeUnit]
    simp only [hlow, hhigh, Bool.false_eq_true, if_false, Char.ofNat_toNat]
  | @pair high low first second hhigh hlow hc hfirst hsecond =>
    have hisHigh : isLowSurrogate (0xD800 + high) = false ∧
        isHighSurrogate (0xD800 + high) = true := by
      simp only [isLowSurrogate, isHighSurrogate, Bool.and_eq_true, Bool.and_eq_false_iff,
        decide_eq_true_eq, decide_eq_false_iff_not]
      omega
    have hisLow : isLowSurrogate (0xDC00 + low) = true := by
      simp only [isLowSurrogate, Bool.and_eq_true, decide_eq_true_eq]
      omega
    have hpaired : pairedChar (0xD800 + high) (0xDC00 + low) = c := by
      rw [pairedChar, Nat.add_sub_cancel_left, Nat.add_sub_cancel_left, ← hc, Char.ofNat_toNat]
    show codedChar (first ++ '\\' :: 'u' :: second ++ rest) = _
    rw [codedChar, List.append_assoc, hfirst.codeUnit]
    simp only [hisHigh, Bool.false_eq_true, if_false, if_true, List.cons_append, hsecond.codeUnit,
      hisLow, hpaired]

/-- A character stands for itself, or is spelled behind a backslash. -/
theorem SpellsChar.plain_or_escape {c : Char} {body : Text} (h : SpellsChar c body) :
    (body = [c] ∧ c ≠ '"' ∧ c ≠ '\\' ∧ ¬ c.toNat < 0x20) ∨ ∃ tail, body = '\\' :: tail := by
  cases h with
  | plain hquote hbackslash hprinted =>
    exact .inl ⟨rfl, hquote, hbackslash, Nat.not_lt.mpr hprinted⟩
  | letter => exact .inr ⟨_, rfl⟩
  | code => exact .inr ⟨_, rfl⟩
  | pair => exact .inr ⟨_, rfl⟩

/-- A spelled character is read, and the rest of the string behind it. -/
theorem SpellsChar.string {c : Char} {body : Text} (h : SpellsChar c body) (rest : Text) :
    string (body ++ rest) = (string rest).map fun (s, rest) => (c :: s, rest) := by
  rcases h.plain_or_escape with ⟨rfl, hquote, hbackslash, hprinted⟩ | ⟨tail, rfl⟩
  · rw [List.singleton_append, Json.string, if_neg hquote, if_neg hbackslash, if_neg hprinted]
  · have hread := h.escaped rest
    rw [List.cons_append, Json.string, if_neg (by decide), if_pos rfl]
    split
    · case h_1 fault hfault => cases hfault.symm.trans hread
    · case h_2 value left hvalue =>
      cases hvalue.symm.trans hread
      rfl

/-- A string is read as the text that it spells. -/
theorem SpellsText.string {s body : Text} (h : SpellsText s body) (rest : Text) :
    string (body ++ '"' :: rest) = .ok (s, rest) := by
  induction h with
  | nil => rw [List.nil_append, Json.string, if_pos rfl]
  | cons hc _ ih =>
    rw [List.append_assoc, hc.string, ih]
    rfl

/-- Behind a skipped escape the string goes on. -/
theorem skipString_escape {letters after : Text} (h : skipEscaped letters = .ok after) :
    skipString ('\\' :: letters) = skipString after := by
  rw [skipString, if_neg (by decide), if_pos rfl]
  split
  · case h_1 fault hfault => cases hfault.symm.trans h
  · case h_2 left hleft =>
    cases hleft.symm.trans h
    rfl

/-- What stands behind a backslash is skipped. -/
theorem SpellsChar.skipEscaped {c : Char} {body : Text} (h : SpellsChar c ('\\' :: body))
    (rest : Text) : ∃ after, skipEscaped (body ++ rest) = .ok after ∧
      skipString after = skipString rest := by
  cases h with
  | plain _ hbackslash _ => exact absurd rfl hbackslash
  | letter h =>
    refine ⟨rest, ?_, rfl⟩
    simp only [shortEscapes, List.mem_cons, List.not_mem_nil, or_false, Prod.mk.injEq] at h
    rcases h with ⟨rfl, rfl⟩ | ⟨rfl, rfl⟩ | ⟨rfl, rfl⟩ | ⟨rfl, rfl⟩ | ⟨rfl, rfl⟩ | ⟨rfl, rfl⟩ |
      ⟨rfl, rfl⟩ | ⟨rfl, rfl⟩ <;> rfl
  | @code digits h =>
    refine ⟨rest, ?_, rfl⟩
    show (codeUnit (digits ++ rest)).map Prod.snd = _
    rw [h.codeUnit]
    rfl
  | @pair high low first second _ _ _ hfirst hsecond =>
    refine ⟨'\\' :: 'u' :: (second ++ rest), ?_, ?_⟩
    · show (codeUnit (first ++ '\\' :: 'u' :: second ++ rest)).map Prod.snd = _
      rw [List.append_assoc, hfirst.codeUnit]
      rfl
    · -- the second half is skipped like an escape of its own
      have hafter : Json.skipEscaped ('u' :: (second ++ rest)) = .ok rest := by
        show (codeUnit (second ++ rest)).map Prod.snd = _
        rw [hsecond.codeUnit]
        rfl
      exact skipString_escape hafter

theorem SpellsChar.skipString {c : Char} {body : Text} (h : SpellsChar c body) (rest : Text) :
    skipString (body ++ rest) = skipString rest := by
  rcases h.plain_or_escape with ⟨rfl, hquote, hbackslash, hprinted⟩ | ⟨tail, rfl⟩
  · rw [List.singleton_append, Json.skipString, if_neg hquote, if_neg hbackslash,
      if_neg hprinted]
  · obtain ⟨after, hafter, hrest⟩ := h.skipEscaped rest
    rw [List.cons_append, skipString_escape hafter, hrest]

/-- A string is skipped up to its end. -/
theorem SpellsText.skipString {s body : Text} (h : SpellsText s body) (rest : Text) :
    skipString (body ++ '"' :: rest) = .ok rest := by
  induction h with
  | nil => rw [List.nil_append, Json.skipString, if_pos rfl]
  | cons hc _ ih => rw [List.append_assoc, hc.skipString, ih]

/-! ### Numbers -/

/-- A text that no digits could go on with. -/
def EndsDigits (rest : Text) : Prop := ∀ c, rest.head? = some c → c.isDigit = false

/-- A text that no number could go on with. -/
def Delimits (rest : Text) : Prop :=
  ∀ c, rest.head? = some c → c.isDigit = false ∧ c ∉ ['.', 'e', 'E']

/-- White space ends a number. -/
theorem delimits_of_spaces {gap : Text} (h : ∀ c ∈ gap, isSpace c = true) : Delimits gap := by
  intro c hc
  have hspace := h c (List.mem_of_head? hc)
  simp only [isSpace, Bool.or_eq_true, beq_iff_eq] at hspace
  rcases hspace with ((rfl | rfl) | rfl) | rfl <;> decide

theorem Delimits.endsDigits {rest : Text} (h : Delimits rest) : EndsDigits rest :=
  fun c hc => (h c hc).1

theorem endsDigits_cons {c : Char} (hc : c.isDigit = false) (rest : Text) :
    EndsDigits (c :: rest) := by
  rintro d ⟨rfl⟩
  exact hc

theorem EndsDigits.split {digits rest : Text} (hrest : EndsDigits rest)
    (hdigits : ∀ c ∈ digits, c.isDigit = true) :
    (digits ++ rest).takeWhile Char.isDigit = digits ∧
      (digits ++ rest).dropWhile Char.isDigit = rest := by
  have hstop : rest.takeWhile Char.isDigit = [] ∧ rest.dropWhile Char.isDigit = rest := by
    cases rest with
    | nil => exact ⟨rfl, rfl⟩
    | cons c rest => simp [hrest c rfl]
  rw [List.takeWhile_append_of_pos hdigits, List.dropWhile_append_of_pos hdigits, hstop.1, hstop.2,
    List.append_nil]
  exact ⟨rfl, rfl⟩

section Read

variable {rest : Text} (atEnd : Problem)

theorem IsDigits.readDigits {digits : Text} (h : IsDigits digits) (hrest : EndsDigits rest) :
    Numeral.readDigits atEnd (digits ++ rest) = .ok (digits, rest) := by
  obtain ⟨c, tail, rfl, hc, htail⟩ := h.exists_cons
  obtain ⟨htake, hdrop⟩ := hrest.split htail
  rw [List.cons_append, Numeral.readDigits, if_pos hc, htake, hdrop]

theorem IsWhole.readWhole {whole : Text} (h : IsWhole whole) (hrest : EndsDigits rest) :
    Numeral.readWhole atEnd (whole ++ rest) = .ok (whole, rest) := by
  rcases h with rfl | ⟨hdigits, hzero⟩
  · cases rest with
    | nil => rfl
    | cons c rest => simp [Numeral.readWhole, hrest c rfl]
  · obtain ⟨c, tail, rfl, hc, htail⟩ := hdigits.exists_cons
    obtain ⟨htake, hdrop⟩ := hrest.split htail
    have hc0 : c ≠ '0' := fun h => hzero (congrArg some h)
    simp only [List.cons_append, Numeral.readWhole, if_neg hc0, if_pos hc, htake, hdrop]

theorem IsFraction.exists_readFraction {fraction : Text} (h : IsFraction fraction)
    (hdigits : EndsDigits rest) (hpoint : rest.head? ≠ some '.') :
    ∃ digits, Numeral.readFraction atEnd (fraction ++ rest) = .ok (digits, rest) := by
  rcases h with rfl | ⟨digits, hfraction, rfl⟩
  · refine ⟨[], ?_⟩
    rw [List.nil_append, Numeral.readFraction]
    rintro tail rfl
    exact hpoint rfl
  · exact ⟨digits, hfraction.readDigits atEnd hdigits⟩

theorem splitSign_append {sign digits : Text} (hsign : sign ∈ [[], ['+'], ['-']])
    (hdigits : IsDigits digits) :
    (Numeral.splitSign (sign ++ digits ++ rest)).2 = digits ++ rest := by
  obtain ⟨c, tail, rfl, hc, _⟩ := hdigits.exists_cons
  simp only [List.mem_cons, List.not_mem_nil, or_false] at hsign
  rcases hsign with rfl | rfl | rfl
  · -- a digit is no sign
    rw [List.nil_append, List.cons_append, Numeral.splitSign]
    · rintro _ ⟨rfl⟩
      cases hc
    · rintro _ ⟨rfl⟩
      cases hc
  · rfl
  · rfl

theorem IsExponent.exists_readExponent {exponent : Text} (h : IsExponent exponent)
    (hrest : Delimits rest) :
    ∃ found, Numeral.readExponent atEnd (exponent ++ rest) = .ok (found, rest) := by
  rcases h with rfl | ⟨letter, sign, digits, hletter, hsign, hdigits, rfl⟩
  · cases rest with
    | nil => exact ⟨none, rfl⟩
    | cons c rest =>
      have hc := (hrest c rfl).2
      simp only [List.mem_cons, List.not_mem_nil, or_false, not_or] at hc
      exact ⟨none, if_neg (not_or.mpr hc.2)⟩
  · have hread := hdigits.readDigits atEnd hrest.endsDigits
    simp only [List.mem_cons, List.not_mem_nil, or_false] at hletter
    refine ⟨some ((Numeral.splitSign (sign ++ digits ++ rest)).1, digits), ?_⟩
    rw [List.cons_append, Numeral.readExponent, if_pos hletter, splitSign_append hsign hdigits,
      hread]

/-- A number without its sign is read up to what cannot go on with it. -/
theorem exists_readUnsigned {whole fraction exponent : Text} (hwhole : IsWhole whole)
    (hfraction : IsFraction fraction) (hexponent : IsExponent exponent) (hrest : Delimits rest)
    (negative : Bool) :
    ∃ found, Numeral.readUnsigned atEnd negative (whole ++ (fraction ++ exponent) ++ rest)
      = .ok (found, rest) := by
  -- neither an exponent nor what stands behind it goes on with digits or a point
  have hbehind : EndsDigits (exponent ++ rest) ∧ (exponent ++ rest).head? ≠ some '.' := by
    rcases hexponent with rfl | ⟨letter, sign, digits, hletter, _, _, rfl⟩
    · exact ⟨hrest.endsDigits, fun hpoint => (hrest _ hpoint).2 List.mem_cons_self⟩
    · simp only [List.mem_cons, List.not_mem_nil, or_false] at hletter
      rcases hletter with rfl | rfl
      · exact ⟨endsDigits_cons (by decide) _, by simp⟩
      · exact ⟨endsDigits_cons (by decide) _, by simp⟩
  have hends : EndsDigits (fraction ++ (exponent ++ rest)) := by
    rcases hfraction with rfl | ⟨digits, _, rfl⟩
    · exact hbehind.1
    · exact endsDigits_cons (by decide) _
  obtain ⟨digits, hfractionRead⟩ := hfraction.exists_readFraction atEnd hbehind.1 hbehind.2
  obtain ⟨power, hexponentRead⟩ := hexponent.exists_readExponent atEnd hrest
  refine ⟨{ negative, whole, fraction := digits, exponent := power }, ?_⟩
  rw [List.append_assoc, List.append_assoc, Numeral.readUnsigned, hwhole.readWhole atEnd hends]
  simp only [bind, Except.bind, hfractionRead, hexponentRead]
  rfl

/-- A number is read up to what cannot go on with it. -/
theorem IsNumeral.exists_read {numeral : Text} (h : IsNumeral numeral) (hrest : Delimits rest) :
    ∃ found, Numeral.read atEnd (numeral ++ rest) = .ok (found, rest) := by
  obtain ⟨sign, whole, fraction, exponent, hsign, hwhole, hfraction, hexponent, rfl⟩ := h
  have hread := exists_readUnsigned atEnd hwhole hfraction hexponent hrest
  simp only [List.mem_cons, List.not_mem_nil, or_false] at hsign
  rcases hsign with rfl | rfl
  · obtain ⟨c, tail, hsplit, hc, _⟩ := hwhole.isDigits.exists_cons
    obtain ⟨found, hfound⟩ := hread false
    refine ⟨found, ?_⟩
    rw [List.nil_append, ← hfound, Numeral.read]
    rintro _ hsigned
    rw [hsplit] at hsigned
    obtain ⟨rfl, _⟩ := List.cons.inj hsigned
    cases hc
  · exact hread true

end Read

/-! ### Scalars -/

theorem word_append (expected rest : Text) : word expected (expected ++ rest) = .ok rest := by
  induction expected with
  | nil => rfl
  | cons c expected ih => rw [List.cons_append, word, if_pos rfl, ih]

/-- A number is skipped up to what cannot go on with it. -/
theorem IsNumeral.skipScalar {numeral rest : Text} (h : IsNumeral numeral) (hrest : Delimits rest) :
    skipScalar (numeral ++ rest) = .ok rest := by
  obtain ⟨found, hfound⟩ := h.exists_read .badNumber hrest
  obtain ⟨c, tail, rfl, hc⟩ := h.exists_cons
  have hne : ∀ d : Char, d ≠ '-' → d.isDigit = false → c ≠ d := by
    rintro d hsign hd rfl
    rcases hc with rfl | hc
    · exact hsign rfl
    · cases hc.symm.trans hd
  rw [List.cons_append] at hfound ⊢
  rw [Json.skipScalar, if_pos hc, hfound]
  · rfl
  · exact hne 'n' (by decide) (by decide)
  · exact hne 't' (by decide) (by decide)
  · exact hne 'f' (by decide) (by decide)
  · exact hne '"' (by decide) (by decide)

end StateOverlay.Json
