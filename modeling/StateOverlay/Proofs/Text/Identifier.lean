/-
Identifiers.

An identifier begins with a letter or a low line and goes on with word characters.  None of these is
white space, a delimiter or a quotation mark, so an identifier can be told from what surrounds it:

* `isBlank_of_isWord` — a word character is no white space;
* `IsIdentifier.not_mem` — a character that is no word character stands in no identifier;
* `name?_append` — an identifier is read back from in front of anything that does not go on with a
  word character;
* `isIdentifier_of_name?` — what is read as a name is an identifier.
-/
import StateOverlay.Proofs.Text.Lines
import StateOverlay.Text.Word

namespace StateOverlay

/-! ### Word characters -/

/-- A word character is no white space. -/
theorem isBlank_of_isWord {c : Char} (h : isWord c = true) : isBlank c = false := by
  have hnone : ∀ n ∈ [0x9, 0xA, 0xB, 0xC, 0xD, 0x20, 0x85, 0xA0, 0x1680, 0x2000, 0x2001, 0x2002,
      0x2003, 0x2004, 0x2005, 0x2006, 0x2007, 0x2008, 0x2009, 0x200A, 0x2028, 0x2029, 0x202F,
      0x205F, 0x3000], (inRanges alphabeticRanges n || inRanges attachingRanges n) = false := by
    decide +kernel
  rw [← Bool.not_eq_true, isBlank_iff]
  intro hblank
  have hword := hnone c.toNat (by simp only [List.mem_cons, List.not_mem_nil]; omega)
  cases h.symm.trans hword

/-- White space is no word character. -/
theorem isWord_of_isBlank {c : Char} (h : isBlank c = true) : isWord c = false := by
  by_contra hword
  cases h.symm.trans (isBlank_of_isWord (Bool.not_eq_false _ ▸ hword))

/-- A text that begins with white space begins with no word. -/
theorem isWord_head?_blanks {gap : Text} (hne : gap ≠ []) (hgap : ∀ c ∈ gap, isBlank c)
    (rest : Text) : ∀ c, (gap ++ rest).head? = some c → isWord c = false := by
  obtain ⟨d, gap, rfl⟩ := List.exists_cons_of_ne_nil hne
  rintro c ⟨rfl⟩
  exact isWord_of_isBlank (hgap d List.mem_cons_self)

/-- A text that begins with no word does so behind white space too. -/
theorem isWord_head?_blanks_append {gap rest : Text} (hgap : ∀ c ∈ gap, isBlank c)
    (hrest : ∀ c, rest.head? = some c → isWord c = false) :
    ∀ c, (gap ++ rest).head? = some c → isWord c = false := by
  by_cases hne : gap = []
  · rwa [hne]
  · exact isWord_head?_blanks hne hgap rest

/-- A text that begins with no word has no word characters to take or to drop. -/
theorem takeWhile_dropWhile_isWord {s : Text} (h : ∀ c, s.head? = some c → isWord c = false) :
    s.takeWhile isWord = [] ∧ s.dropWhile isWord = s := by
  cases s with
  | nil => exact ⟨rfl, rfl⟩
  | cons c s =>
    have hc : ¬ isWord c = true := by rw [h c rfl]; exact Bool.false_ne_true
    exact ⟨List.takeWhile_cons_of_neg hc, List.dropWhile_cons_of_neg hc⟩

/-- A letter or a low line, by its number. -/
theorem isNameStart_iff {c : Char} :
    isNameStart c = true ↔
      65 ≤ c.toNat ∧ c.toNat ≤ 90 ∨ 97 ≤ c.toNat ∧ c.toNat ≤ 122 ∨ c.toNat = 95 := by
  have hlow : c = '_' ↔ c.toNat = 95 := by
    constructor
    · rintro rfl
      rfl
    · exact fun h => Char.ext (UInt32.toNat_inj.mp h)
  rw [isNameStart, Bool.or_eq_true, beq_iff_eq, hlow]
  delta Char.isAlpha Char.isUpper Char.isLower
  simp only [Bool.or_eq_true, Bool.and_eq_true, decide_eq_true_eq, UInt32.le_iff_toNat_le,
    ge_iff_le, or_assoc]
  rfl

/-- A name begins with a word character. -/
theorem isWord_of_isNameStart {c : Char} (h : isNameStart c = true) : isWord c = true := by
  have hall : ∀ n ∈ 95 :: (List.range' 65 26 ++ List.range' 97 26),
      (inRanges alphabeticRanges n || inRanges attachingRanges n) = true := by
    decide +kernel
  rw [isNameStart_iff] at h
  apply hall c.toNat
  simp only [List.mem_cons, List.mem_append, List.mem_range'_1]
  omega

theorem isBlank_of_isNameStart {c : Char} (h : isNameStart c = true) : isBlank c = false :=
  isBlank_of_isWord (isWord_of_isNameStart h)

/-- No name begins with white space. -/
theorem name?_cons_of_isBlank {c : Char} (hc : isBlank c = true) (rest : Text) :
    Text.name? (c :: rest) = none := by
  rw [Text.name?, if_neg]
  intro hstart
  cases hc.symm.trans (isBlank_of_isNameStart hstart)

/-! ### Identifiers -/

/-- A text that begins like a name and holds word characters from there on. -/
def IsIdentifier : Text → Prop
  | [] => False
  | c :: rest => isNameStart c = true ∧ ∀ d ∈ rest, isWord d = true

instance : DecidablePred IsIdentifier
  | [] => .isFalse id
  | c :: rest =>
    decidable_of_iff ((isNameStart c && rest.all isWord) = true) (by
      rw [Bool.and_eq_true, List.all_eq_true]
      rfl)

/-- An identifier begins with the first character of a name. -/
theorem IsIdentifier.exists_cons {s : Text} (h : IsIdentifier s) :
    ∃ c rest, s = c :: rest ∧ isNameStart c = true ∧ ∀ d ∈ rest, isWord d = true := by
  cases s with
  | nil => exact h.elim
  | cons c rest => exact ⟨c, rest, rfl, h⟩

/-- No character stands in an identifier that neither begins a name nor goes on with it. -/
theorem IsIdentifier.not_mem {s : Text} (h : IsIdentifier s) {c : Char}
    (hstart : isNameStart c = false) (hword : isWord c = false) : c ∉ s := by
  obtain ⟨first, rest, rfl, hfirst, hrest⟩ := h.exists_cons
  rw [List.mem_cons, not_or]
  constructor
  · rintro rfl
    cases hfirst.symm.trans hstart
  · intro hmem
    cases (hrest c hmem).symm.trans hword

theorem IsIdentifier.isWord_of_mem {s : Text} (h : IsIdentifier s) :
    ∀ c ∈ s, isWord c = true := by
  obtain ⟨first, rest, rfl, hfirst, hrest⟩ := h.exists_cons
  exact List.forall_mem_cons.mpr ⟨isWord_of_isNameStart hfirst, hrest⟩

theorem IsIdentifier.isBlank_of_mem {s : Text} (h : IsIdentifier s) :
    ∀ c ∈ s, isBlank c = false :=
  fun c hc => isBlank_of_isWord (h.isWord_of_mem c hc)

theorem IsIdentifier.isWord_last {name : Text} (h : IsIdentifier name) {s : Text} {c : Char}
    (hc : (s ++ name).getLast? = some c) : isWord c = true := by
  obtain ⟨first, rest, rfl, _⟩ := h.exists_cons
  rw [List.getLast?_append_of_ne_nil _ (List.cons_ne_nil _ _)] at hc
  exact h.isWord_of_mem c (List.mem_of_getLast? hc)

/-- White space ends where an identifier begins. -/
theorem trimStart_identifier {name : Text} (h : IsIdentifier name) (rest : Text) :
    Text.trimStart (name ++ rest) = name ++ rest := by
  obtain ⟨c, word, rfl, hc, _⟩ := h.exists_cons
  exact List.dropWhile_cons_of_neg (by simp [isBlank_of_isNameStart hc])

/-- An identifier has no outer white space. -/
theorem IsIdentifier.trim_eq {s : Text} (h : IsIdentifier s) : Text.trim s = s :=
  trim_eq_self (fun c hc => h.isBlank_of_mem c (List.mem_of_head? hc))
    (fun c hc => h.isBlank_of_mem c (List.mem_of_getLast? hc))

/-- An identifier is read back from in front of anything that does not go on with it. -/
theorem name?_append {name rest : Text} (h : IsIdentifier name)
    (hrest : ∀ c, rest.head? = some c → isWord c = false) :
    Text.name? (name ++ rest) = some (name, rest) := by
  obtain ⟨first, word, rfl, hfirst, hword⟩ := h.exists_cons
  obtain ⟨htake, hdrop⟩ := takeWhile_dropWhile_isWord hrest
  rw [List.cons_append, Text.name?, if_pos hfirst, List.takeWhile_append_of_pos hword,
    List.dropWhile_append_of_pos hword, htake, hdrop, List.append_nil]

/-- What is read as a name is an identifier, and the text goes on behind it. -/
theorem isIdentifier_of_name? {s name rest : Text} (h : Text.name? s = some (name, rest)) :
    IsIdentifier name ∧ s = name ++ rest := by
  cases s with
  | nil => cases h
  | cons c s =>
    rw [Text.name?] at h
    split at h
    · case isTrue hc =>
      cases h
      refine ⟨⟨hc, fun d hd => List.mem_takeWhile_imp hd⟩, ?_⟩
      rw [List.cons_append, List.takeWhile_append_dropWhile]
    · cases h

end StateOverlay
