/-
The account of the lines of a header.

A scan says of each line of code what became of it: it is listed as skipped under its number, or it
declares one identifier, and perhaps a record.  What the scan holds is the sum of these entries,
each line being asked once and in its place:

* `isCodeAt_iff` — no line of code stands in the preamble, so every one of them is asked;
* `pairwise_number_codeLines` — the lines of code come in the order of their numbers;
* `Declared`, `mem_declaredLines_iff` — what the lines that are not skipped declare;
* `mem_skipped_iff_isCodeAt` — the lines that are;
* `lines_accounted` — the whole account.
-/
import StateOverlay.Proofs.Scan.Recognition

namespace StateOverlay

/-! ### The lines that are asked -/

/-- A line stands at a place behind the preamble, the first line of the header being at 0, and is
neither blank nor begins with a comment or a number sign. -/
structure IsCodeAt (source : Text) (i : Nat) (line : Text) : Prop where
  found : (Text.lines source)[i]? = some line
  behind : (preambleLines source).length ≤ i
  notBlank : Text.trim line ≠ []
  notComment : ¬ ['/', '*'] <+: Text.trim line
  notDirective : ¬ ['#'] <+: Text.trim line

/-- A line of code is no line of the preamble. -/
theorem length_preambleLines_le {source line : Text} {i : Nat}
    (hline : (Text.lines source)[i]? = some line) (hloud : isQuiet line = false) :
    (preambleLines source).length ≤ i := by
  by_contra hlt
  rw [Nat.not_le] at hlt
  have hsplit : Text.lines source = preambleLines source ++ (Text.lines source).dropWhile isQuiet :=
    List.takeWhile_append_dropWhile.symm
  rw [hsplit, List.getElem?_append_left hlt] at hline
  cases hloud.symm.trans (isQuiet_of_mem_preamble (List.mem_of_getElem? hline))

theorem isCodeAt_iff {source line : Text} {i : Nat} :
    IsCodeAt source i line ↔ (Text.lines source)[i]? = some line ∧ IsCodeLine line := by
  have hquiet : isQuiet line = false ↔ Text.trim line ≠ [] ∧ ¬ ['/', '*'] <+: Text.trim line := by
    rw [isQuiet, Bool.or_eq_false_iff, List.isEmpty_eq_false_iff, ← List.isPrefixOf_iff_prefix,
      Bool.not_eq_true]
  have hplain : isDirective line = false ↔ ¬ ['#'] <+: Text.trim line := by
    rw [isDirective, ← List.isPrefixOf_iff_prefix, Bool.not_eq_true]
  constructor
  · intro h
    exact ⟨h.found, hquiet.mpr ⟨h.notBlank, h.notComment⟩, hplain.mpr h.notDirective⟩
  · rintro ⟨hline, hcode⟩
    obtain ⟨hblank, hcomment⟩ := hquiet.mp hcode.loud
    exact ⟨hline, length_preambleLines_le hline hcode.loud, hblank, hcomment,
      hplain.mp hcode.plain⟩

theorem pairwise_snd_zipIdx (lines : List Text) (start : Nat) :
    (lines.zipIdx start).Pairwise fun a b => a.2 < b.2 := by
  rw [← List.pairwise_map (f := Prod.snd) (R := (· < ·)), List.zipIdx_map_snd]
  exact List.pairwise_lt_range'

/-- The lines of code come in the order of their numbers. -/
theorem pairwise_number_codeLines (config : Config) (source : Text) :
    (codeLines config source).Pairwise fun a b => a.number < b.number := by
  rw [codeLines, bodyLines_eq, List.pairwise_map]
  exact ((pairwise_snd_zipIdx _ 1).filter _).filter _

/-! ### What they declare -/

/-- What a line of a header declares: one identifier, and a record if it initializes one. -/
structure Declared where
  /-- The number of the line, the first being 1. -/
  number : Nat
  name : Text
  record : Option Record

/-- What a line of code declares if it is not skipped. -/
def CodeLine.declared? (code : CodeLine) : Option Declared :=
  match code.lineClass with
  | .declaration name record => some { number := code.number, name, record }
  | .skipped _ => none

theorem CodeLine.map_name_declared? (code : CodeLine) :
    code.declared?.map Declared.name = code.name? := by
  obtain ⟨number, line, lineClass⟩ := code
  cases lineClass with
  | declaration name record => rfl
  | skipped reason => rfl

theorem CodeLine.bind_record_declared? (code : CodeLine) :
    code.declared?.bind Declared.record = code.record? := by
  obtain ⟨number, line, lineClass⟩ := code
  cases lineClass with
  | declaration name record => rfl
  | skipped reason => rfl

theorem CodeLine.declared?_eq_some_iff {code : CodeLine} {declared : Declared} :
    code.declared? = some declared ↔ declared.number = code.number ∧
      code.lineClass = .declaration declared.name declared.record := by
  obtain ⟨number, name, record⟩ := declared
  rw [CodeLine.declared?]
  cases code.lineClass <;> simp [eq_comm]

/-- What the lines of a header declare, line by line. -/
def declaredLines (config : Config) (source : Text) : List Declared :=
  (codeLines config source).filterMap CodeLine.declared?

section Account

variable {config : Config} {source : Text}

/-- What is found in the lines of code is found in one that stands behind the preamble. -/
theorem mem_filterMap_codeLines_iff {α : Type} {f : CodeLine → Option α} {found : α} :
    found ∈ (codeLines config source).filterMap f ↔
      ∃ i line, IsCodeAt source i line ∧
        f { number := i + 1, line, lineClass := classify config line } = some found := by
  simp only [List.mem_filterMap, mem_codeLines_iff, isCodeAt_iff]
  constructor
  · rintro ⟨_, ⟨i, line, hline, hcode, rfl⟩, hfound⟩
    exact ⟨i, line, ⟨hline, hcode⟩, hfound⟩
  · rintro ⟨i, line, ⟨hline, hcode⟩, hfound⟩
    exact ⟨_, ⟨i, line, hline, hcode, rfl⟩, hfound⟩

/-- What is declared on a line is what that line is classified as. -/
theorem mem_declaredLines_iff {declared : Declared} :
    declared ∈ declaredLines config source ↔
      ∃ i line, IsCodeAt source i line ∧ declared.number = i + 1 ∧
        classify config line = .declaration declared.name declared.record := by
  simp only [declaredLines, mem_filterMap_codeLines_iff, CodeLine.declared?_eq_some_iff]

/-- A line is listed as skipped for the reason that it is classified with. -/
theorem mem_skipped_iff_isCodeAt {entry : SkippedLine} :
    entry ∈ (Scan.ofSource config source).skipped ↔
      ∃ i line, IsCodeAt source i line ∧ entry.lineNumber = i + 1 ∧
        entry.text = Text.trim line ∧ classify config line = .skipped entry.reason := by
  show entry ∈ (codeLines config source).filterMap CodeLine.skipped? ↔ _
  simp only [mem_filterMap_codeLines_iff, CodeLine.skipped?_eq_some_iff]

/-- The numbers of the skipped lines increase. -/
theorem pairwise_lineNumber_skipped :
    ((Scan.ofSource config source).skipped.map SkippedLine.lineNumber).Pairwise (· < ·) := by
  rw [List.pairwise_map]
  refine (pairwise_number_codeLines config source).filterMap _ ?_
  intro code other hlt entry hentry entry' hentry'
  rw [lineNumber_of_skipped? hentry, lineNumber_of_skipped? hentry']
  exact hlt

/-- No two identifiers are declared on one line. -/
theorem pairwise_number_declaredLines :
    ((declaredLines config source).map Declared.number).Pairwise (· < ·) := by
  rw [List.pairwise_map]
  refine (pairwise_number_codeLines config source).filterMap _ ?_
  intro code other hlt declared hdeclared declared' hdeclared'
  rw [(CodeLine.declared?_eq_some_iff.mp hdeclared).1,
    (CodeLine.declared?_eq_some_iff.mp hdeclared').1]
  exact hlt

/-- The lines with a declaration are the lines of code that are not listed as skipped. -/
theorem mem_number_declaredLines_iff {i : Nat} :
    i + 1 ∈ (declaredLines config source).map Declared.number ↔
      (∃ line, IsCodeAt source i line) ∧
        ∀ entry ∈ (Scan.ofSource config source).skipped, entry.lineNumber ≠ i + 1 := by
  rw [List.mem_map]
  constructor
  · rintro ⟨declared, hdeclared, hnumber⟩
    obtain ⟨j, line, hcode, hj, hclass⟩ := mem_declaredLines_iff.mp hdeclared
    obtain rfl : j = i := by omega
    refine ⟨⟨line, hcode⟩, fun entry hentry hsame => ?_⟩
    -- one line has one class
    obtain ⟨k, other, hother, hk, _, hskipped⟩ := mem_skipped_iff_isCodeAt.mp hentry
    obtain rfl : k = j := by omega
    cases hcode.found.symm.trans hother.found
    cases hclass.symm.trans hskipped
  · rintro ⟨⟨line, hcode⟩, hlisted⟩
    cases hclass : classify config line with
    | declaration name record =>
      have hdeclared : ⟨i + 1, name, record⟩ ∈ declaredLines config source :=
        mem_declaredLines_iff.mpr ⟨i, line, hcode, rfl, hclass⟩
      exact ⟨_, hdeclared, rfl⟩
    | skipped reason =>
      have hentry : ⟨i + 1, Text.trim line, reason⟩ ∈ (Scan.ofSource config source).skipped :=
        mem_skipped_iff_isCodeAt.mpr ⟨i, line, hcode, rfl, rfl, hclass⟩
      exact absurd rfl (hlisted _ hentry)

theorem identifiers_eq_declared :
    (Scan.ofSource config source).identifiers
      = ((declaredLines config source).map Declared.name).eraseDups := by
  show ((codeLines config source).filterMap CodeLine.name?).eraseDups = _
  rw [declaredLines, List.map_filterMap]
  simp only [CodeLine.map_name_declared?]

theorem records_eq_declared :
    (Scan.ofSource config source).records
      = (declaredLines config source).filterMap Declared.record := by
  show (codeLines config source).filterMap CodeLine.record? = _
  rw [declaredLines, List.filterMap_filterMap]
  simp only [CodeLine.bind_record_declared?]

end Account

/-- **Line accounting**: the skipped lines are listed in the order of their numbers, each with its
text; every other line behind the preamble that is neither blank nor begins with a comment or a
number sign declares one identifier; the identifiers of the scan are these, each where it comes
first, and its records are those declared with them. -/
theorem lines_accounted (config : Config) (source : Text) :
    let scan := Scan.ofSource config source
    (scan.skipped.map SkippedLine.lineNumber).Pairwise (· < ·) ∧
    (∀ entry, entry ∈ scan.skipped ↔
      ∃ i line, IsCodeAt source i line ∧ entry.lineNumber = i + 1 ∧
        entry.text = Text.trim line ∧ classify config line = .skipped entry.reason) ∧
    ∃ found : List Declared,
      (found.map Declared.number).Pairwise (· < ·) ∧
      (∀ i, i + 1 ∈ found.map Declared.number ↔
        (∃ line, IsCodeAt source i line) ∧ ∀ entry ∈ scan.skipped, entry.lineNumber ≠ i + 1) ∧
      (∀ declared, declared ∈ found ↔
        ∃ i line, IsCodeAt source i line ∧ declared.number = i + 1 ∧
          classify config line = .declaration declared.name declared.record) ∧
      scan.identifiers = (found.map Declared.name).eraseDups ∧
      scan.records = found.filterMap Declared.record := by
  intro scan
  refine ⟨pairwise_lineNumber_skipped, fun entry => mem_skipped_iff_isCodeAt,
    declaredLines config source, pairwise_number_declaredLines,
    fun i => mem_number_declaredLines_iff, fun declared => mem_declaredLines_iff,
    identifiers_eq_declared, records_eq_declared⟩

end StateOverlay
