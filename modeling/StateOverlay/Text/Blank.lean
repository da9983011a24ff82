/-
White space and trimming.

The blank characters are those with the White_Space property of the Unicode standard.  A line
feed is one of them, a zero width space and a byte order mark are not.

* `isBlank_iff` — the blanks, spelled out one range at a time;
* `mem_afterBlanks_iff` — the cuts behind a run of blanks are all of them.
-/
import StateOverlay.Text.Basic

namespace StateOverlay

/-- The code points with the White_Space property. -/
def blankRanges : List (Nat × Nat) := [
    (0x9, 0xD), (0x20, 0x20), (0x85, 0x85), (0xA0, 0xA0), (0x1680, 0x1680), (0x2000, 0x200A),
    (0x2028, 0x2029), (0x202F, 0x202F), (0x205F, 0x205F), (0x3000, 0x3000)
  ]

/-- Whether a character is white space. -/
def isBlank (c : Char) : Bool := inRanges blankRanges c.toNat

/-- The blanks, one range or character at a time. -/
theorem isBlank_iff {c : Char} :
    isBlank c = true ↔
      0x9 ≤ c.toNat ∧ c.toNat ≤ 0xD ∨ c.toNat = 0x20 ∨ c.toNat = 0x85 ∨ c.toNat = 0xA0 ∨
        c.toNat = 0x1680 ∨ 0x2000 ≤ c.toNat ∧ c.toNat ≤ 0x200A ∨ c.toNat = 0x2028 ∨
        c.toNat = 0x2029 ∨ c.toNat = 0x202F ∨ c.toNat = 0x205F ∨ c.toNat = 0x3000 := by
  simp only [isBlank, blankRanges, inRanges]
  repeat' split
  all_goals simp only [decide_eq_true_eq, Bool.false_eq_true, false_iff]
  all_goals omega

namespace Text

/-- A text without the white space it begins with. -/
def trimStart (s : Text) : Text := s.dropWhile isBlank

/-- A text without the white space it ends with. -/
def trimEnd (s : Text) : Text := (s.reverse.dropWhile isBlank).reverse

/-- A text without the white space at its two ends. -/
def trim (s : Text) : Text := trimEnd (trimStart s)

/-- What is left of a text after each non-empty run of white space it begins with. -/
def afterBlanks : Text → List Text
  | [] => []
  | c :: rest => if isBlank c then rest :: afterBlanks rest else []

/-- The rests behind a run of blanks are those that some non-empty run of blanks leaves. -/
theorem mem_afterBlanks_iff {s rest : Text} :
    rest ∈ afterBlanks s ↔ ∃ run, run ≠ [] ∧ (∀ c ∈ run, isBlank c) ∧ s = run ++ rest := by
  induction s with
  | nil =>
    simp only [afterBlanks, List.not_mem_nil, false_iff]
    rintro ⟨run, hne, _, hs⟩
    exact hne (List.append_eq_nil_iff.mp hs.symm).1
  | cons c tail ih =>
    cases hc : isBlank c with
    | false =>
      simp only [afterBlanks, hc, Bool.false_eq_true, if_false, List.not_mem_nil, false_iff]
      rintro ⟨run, hne, hrun, hs⟩
      cases run with
      | nil => exact hne rfl
      | cons b run =>
        obtain ⟨rfl, _⟩ := List.cons.inj hs
        have := hrun c (List.mem_cons_self ..)
        rw [hc] at this
        cases this
    | true =>
      simp only [afterBlanks, hc, if_true, List.mem_cons, ih]
      constructor
      · rintro (rfl | ⟨run, hne, hrun, rfl⟩)
        · exact ⟨[c], by simp, by simpa using hc, rfl⟩
        · exact ⟨c :: run, by simp, by simpa [hc] using hrun, rfl⟩
      · rintro ⟨run, hne, hrun, hs⟩
        cases run with
        | nil => exact absurd rfl hne
        | cons b run =>
          obtain ⟨rfl, htail⟩ := List.cons.inj hs
          -- the run ends here, or it goes on behind its first blank
          cases run with
          | nil => exact .inl htail.symm
          | cons d run =>
            exact .inr ⟨d :: run, by simp, fun x hx => hrun x (List.mem_cons_of_mem _ hx), htail⟩

end Text

end StateOverlay
