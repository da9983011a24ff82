/-
The lines of code of a header, one by one.

Nothing is carried from one line to the next: each line of a header is code or not by itself, and
the scan collects what the lines of code come to.  So a scan can be known line by line:

* `isDirective_iff`, `isQuiet_iff` — what a line begins with behind white space decides whether it
  is a directive, and whether it is quiet;
* `bodyLines_eq` — the preamble makes no difference to which lines are left over;
* `mem_codeLines_iff` — the lines of code, by their places in the header;
* `mem_identifiers_iff`, `mem_records_iff`, `mem_skipped_iff` — what a scan finds, by lines of code;
* `mem_identifiers_iff_exists_line`, `mem_records_iff_exists_line` — the same by lines of the
  header;
* `codeLines_withoutLine` — a header without one of its lines has the other lines of code;
* `mem_skipped_and_number_iff`, `identifiers_withoutLine`, `records_withoutLine` — a line that is
  skipped is listed, once, and adds nothing else;
* `mem_identifiers_iff_of_declaration` — a line that is a declaration adds its identifier to those
  of the other lines, and nothing else.
-/
import Mathlib.Data.List.Basic
import StateOverlay.Proofs.Text.Lines
import StateOverlay.Scan

namespace StateOverlay

/-! ### Lines of code -/

/-- A line is a directive by its first character behind white space. -/
theorem isDirective_iff {line : Text} :
    isDirective line = true ↔ (Text.trimStart line).head? = some '#' := by
  rw [isDirective, ← head?_trim, List.isPrefixOf_iff_prefix,
    List.singleton_prefix_iff_head?_eq_some]

/-- A line is quiet by what it begins with behind white space. -/
theorem isQuiet_iff {line : Text} :
    isQuiet line = true ↔ Text.trimStart line = [] ∨ ['/', '*'] <+: Text.trimStart line := by
  have hempty : Text.trim line = [] ↔ Text.trimStart line = [] := by
    rw [← List.head?_eq_none_iff, head?_trim, List.head?_eq_none_iff]
  have hopener : ['/', '*'] <+: Text.trim line ↔ ['/', '*'] <+: Text.trimStart line := by
    constructor
    · exact fun h => h.trans (trimEnd_isPrefix _)
    · -- neither character of the opener is white space, so none of it is trimmed
      rintro ⟨rest, hstart⟩
      refine ⟨Text.trimEnd rest, ?_⟩
      rw [Text.trim, ← hstart]
      show _ = Text.trimEnd ('/' :: '*' :: rest)
      rw [trimEnd_cons (by decide), trimEnd_cons (by decide)]
      rfl
  rw [isQuiet, Bool.or_eq_true, List.isEmpty_iff, List.isPrefixOf_iff_prefix, hempty, hopener]

/-- A line that is neither quiet nor a directive. -/
structure IsCodeLine (line : Text) : Prop where
  loud : isQuiet line = false
  plain : isDirective line = false

/-- A line is code if it begins with neither a comment nor a directive. -/
theorem isCodeLine_of_head? {line : Text} {c : Char}
    (hhead : (Text.trimStart line).head? = some c) (hslash : c ≠ '/') (hhash : c ≠ '#') :
    IsCodeLine line := by
  obtain ⟨rest, hstart⟩ := List.head?_eq_some_iff.mp hhead
  have htrim : Text.trim line = c :: Text.trimEnd rest := by
    rw [Text.trim, hstart, trimEnd_cons (isBlank_of_head?_trimStart hhead)]
  constructor
  · rw [isQuiet, htrim]
    simp [List.isPrefixOf, hslash.symm]
  · rw [isDirective, htrim]
    simp [List.isPrefixOf, hhash.symm]

/-- A line that begins with words and stars is code. -/
theorem isCodeLine_of_words {words : Text}
    (h : ∀ c ∈ words, isWord c = true ∨ isBlank c = true ∨ c = '*')
    (hloud : ∃ c ∈ words, isBlank c = false) (rest : Text) : IsCodeLine (words ++ rest) := by
  have hne : Text.trimStart words ≠ [] := by
    rw [Text.trimStart, Ne, List.dropWhile_eq_nil_iff]
    obtain ⟨c, hmem, hc⟩ := hloud
    exact fun hblank => absurd (hblank c hmem) (by rw [hc]; exact Bool.false_ne_true)
  obtain ⟨c, start, hstart⟩ := List.exists_cons_of_ne_nil hne
  have hhead : (Text.trimStart (words ++ rest)).head? = some c := by
    rw [Text.trimStart] at hstart ⊢
    rw [List.dropWhile_append, hstart]
    rfl
  have hc : isWord c = true ∨ c = '*' := by
    have hmem : c ∈ words := (List.dropWhile_suffix _).subset (hstart ▸ List.mem_cons_self)
    rcases h c hmem with hword | hblank | hstar
    · exact .inl hword
    · cases (isBlank_of_head?_trimStart hhead).symm.trans hblank
    · exact .inr hstar
  apply isCodeLine_of_head? hhead
  · rintro rfl
    revert hc
    decide
  · rintro rfl
    revert hc
    decide

/-- The quiet lines of the preamble are among those that are left out anyway. -/
theorem bodyLines_eq (source : Text) :
    bodyLines source = ((Text.lines source).zipIdx 1).filter fun (line, _) => !isQuiet line := by
  rw [bodyLines]
  induction (Text.lines source).zipIdx 1 with
  | nil => rfl
  | cons line rest ih =>
    cases hquiet : isQuiet line.1 with
    | true => simp [hquiet, ih]
    | false => simp [hquiet]

/-- The lines of code of a header, by their places in it. -/
theorem mem_codeLines_iff {config : Config} {source : Text} {code : CodeLine} :
    code ∈ codeLines config source ↔
      ∃ i line, (Text.lines source)[i]? = some line ∧ IsCodeLine line ∧
        code = { number := i + 1, line, lineClass := classify config line } := by
  rw [codeLines, bodyLines_eq, List.mem_map]
  constructor
  · rintro ⟨⟨line, number⟩, hmem, rfl⟩
    obtain ⟨hbody, hplain⟩ := List.mem_filter.mp hmem
    obtain ⟨hline, hloud⟩ := List.mem_filter.mp hbody
    obtain ⟨hnumber, hget⟩ := List.mk_mem_zipIdx_iff_le_and_getElem?_sub.mp hline
    refine ⟨number - 1, line, hget, ⟨by simpa using hloud, by simpa using hplain⟩, ?_⟩
    rw [Nat.sub_add_cancel hnumber]
  · rintro ⟨i, line, hget, hcode, rfl⟩
    refine ⟨(line, i + 1), ?_, rfl⟩
    rw [List.mem_filter, List.mem_filter, List.mk_mem_zipIdx_iff_le_and_getElem?_sub]
    exact ⟨⟨⟨Nat.le_add_left 1 i, hget⟩, by simp [hcode.loud]⟩, by simp [hcode.plain]⟩

theorem eq_of_number_eq {config : Config} {source : Text} {code other : CodeLine}
    (hcode : code ∈ codeLines config source) (hother : other ∈ codeLines config source)
    (hnumber : code.number = other.number) : code = other := by
  obtain ⟨i, line, hline, _, rfl⟩ := mem_codeLines_iff.mp hcode
  obtain ⟨j, line', hline', _, rfl⟩ := mem_codeLines_iff.mp hother
  obtain rfl : i = j := Nat.succ.inj hnumber
  cases hline.symm.trans hline'
  rfl

/-! ### What a scan finds -/

section Found

variable {config : Config} {source : Text}

theorem mem_identifiers_iff {name : Text} :
    name ∈ (Scan.ofSource config source).identifiers ↔
      ∃ code ∈ codeLines config source, code.name? = some name :=
  List.mem_eraseDups.trans List.mem_filterMap

theorem mem_records_iff {record : Record} :
    record ∈ (Scan.ofSource config source).records ↔
      ∃ code ∈ codeLines config source, code.record? = some record :=
  List.mem_filterMap

theorem mem_skipped_iff {skipped : SkippedLine} :
    skipped ∈ (Scan.ofSource config source).skipped ↔
      ∃ code ∈ codeLines config source, code.skipped? = some skipped :=
  List.mem_filterMap

theorem CodeLine.skipped?_eq_some_iff {code : CodeLine} {skipped : SkippedLine} :
    code.skipped? = some skipped ↔ skipped.lineNumber = code.number ∧
      skipped.text = Text.trim code.line ∧ code.lineClass = .skipped skipped.reason := by
  obtain ⟨number, text, reason⟩ := skipped
  rw [CodeLine.skipped?]
  cases code.lineClass <;> simp [eq_comm]

theorem lineNumber_of_skipped? {code : CodeLine} {skipped : SkippedLine}
    (h : code.skipped? = some skipped) : skipped.lineNumber = code.number :=
  (CodeLine.skipped?_eq_some_iff.mp h).1

/-- What is asked of the class of a line of code is asked of the lines of the header. -/
theorem exists_codeLine_iff {p : LineClass → Prop} :
    (∃ code ∈ codeLines config source, p code.lineClass) ↔
      ∃ line ∈ Text.lines source, IsCodeLine line ∧ p (classify config line) := by
  constructor
  · rintro ⟨code, hmem, hclass⟩
    obtain ⟨i, line, hline, hcode, rfl⟩ := mem_codeLines_iff.mp hmem
    exact ⟨line, List.mem_of_getElem? hline, hcode, hclass⟩
  · rintro ⟨line, hline, hcode, hclass⟩
    obtain ⟨i, hget⟩ := List.mem_iff_getElem?.mp hline
    exact ⟨_, mem_codeLines_iff.mpr ⟨i, line, hget, hcode, rfl⟩, hclass⟩

theorem CodeLine.name?_eq_some_iff {code : CodeLine} {name : Text} :
    code.name? = some name ↔ ∃ record, code.lineClass = .declaration name record := by
  rw [CodeLine.name?]
  cases code.lineClass <;> simp

theorem CodeLine.record?_eq_some_iff {code : CodeLine} {record : Record} :
    code.record? = some record ↔ ∃ name, code.lineClass = .declaration name (some record) := by
  rw [CodeLine.record?]
  cases code.lineClass <;> simp

/-- The identifiers of a scan, by the lines of the header. -/
theorem mem_identifiers_iff_exists_line {name : Text} :
    name ∈ (Scan.ofSource config source).identifiers ↔
      ∃ line ∈ Text.lines source, IsCodeLine line ∧
        ∃ record, classify config line = .declaration name record := by
  rw [mem_identifiers_iff]
  simp only [CodeLine.name?_eq_some_iff]
  exact exists_codeLine_iff (p := fun found => ∃ record, found = .declaration name record)

/-- The records of a scan, by the lines of the header. -/
theorem mem_records_iff_exists_line {record : Record} :
    record ∈ (Scan.ofSource config source).records ↔
      ∃ line ∈ Text.lines source, IsCodeLine line ∧
        ∃ name, classify config line = .declaration name (some record) := by
  rw [mem_records_iff]
  simp only [CodeLine.record?_eq_some_iff]
  exact exists_codeLine_iff (p := fun found => ∃ name, found = .declaration name (some record))

end Found

/-! ### A single line -/

/-- A header with one of its lines made empty. -/
def withoutLine (source : Text) (i : Nat) : Text :=
  Text.unlines ((source.splitOn '\n').set i [])

theorem lines_withoutLine (source : Text) (i : Nat) :
    Text.lines (withoutLine source i) = (Text.lines source).set i [] := by
  have hfeeds : ∀ line ∈ (source.splitOn '\n').set i [], '\n' ∉ line := by
    intro line hline
    rcases List.mem_or_eq_of_mem_set hline with hline | rfl
    · exact not_mem_of_mem_splitOn hline
    · exact List.not_mem_nil
  have hne : (source.splitOn '\n').set i [] ≠ [] := by
    rw [Ne, List.set_eq_nil_iff]
    exact List.splitOn_ne_nil '\n' source
  rw [withoutLine, lines_unlines hne hfeeds, List.map_set]
  rfl

theorem not_isCodeLine_nil : ¬ IsCodeLine [] := fun h => nomatch h.loud

/-- The lines of a header without one of them, numbered as before. -/
theorem filter_zipIdx_set {p : Text × Nat → Bool} (hp : ∀ number, p ([], number) = false)
    (lines : List Text) (i start : Nat) :
    ((lines.set i []).zipIdx start).filter p
      = ((lines.zipIdx start).filter p).filter fun line => line.2 != start + i := by
  induction lines generalizing i start with
  | nil => rfl
  | cons line lines ih =>
    cases i with
    | zero =>
      -- the numbers behind the line are all greater than its own
      have hrest : ((lines.zipIdx (start + 1)).filter p).filter (fun line => line.2 != start + 0)
          = (lines.zipIdx (start + 1)).filter p := by
        rw [List.filter_eq_self]
        intro found hfound
        have hnumber := List.le_snd_of_mem_zipIdx (List.mem_filter.mp hfound).1
        rw [bne_iff_ne]
        omega
      rw [List.set_cons_zero, List.zipIdx_cons, List.zipIdx_cons,
        List.filter_cons_of_neg (by simp [hp]), ← hrest]
      cases hline : p (line, start) with
      | true => simp [hline]
      | false => simp [hline]
    | succ i =>
      have hnumber : start + (i + 1) = start + 1 + i := by omega
      have hne : ((line, start).2 != start + 1 + i) = true := by
        rw [bne_iff_ne]
        show start ≠ start + 1 + i
        omega
      rw [List.set_cons_succ, List.zipIdx_cons, List.zipIdx_cons, hnumber]
      cases hline : p (line, start) with
      | true =>
        rw [List.filter_cons_of_pos hline, List.filter_cons_of_pos hline, ih]
        exact (List.filter_cons_of_pos (p := fun found : Text × Nat => found.2 != start + 1 + i)
          hne).symm
      | false =>
        rw [List.filter_cons_of_neg (by simp [hline]), List.filter_cons_of_neg (by simp [hline]),
          ih]

/-- The lines of code of a header without one of its lines are the others. -/
theorem codeLines_withoutLine (config : Config) (source : Text) (i : Nat) :
    codeLines config (withoutLine source i)
      = (codeLines config source).filter fun code => code.number != i + 1 := by
  rw [codeLines, codeLines, bodyLines_eq, bodyLines_eq, lines_withoutLine, List.filter_filter,
    List.filter_filter, filter_zipIdx_set fun number => rfl, List.filter_map, Nat.add_comm 1 i]
  rfl

/-- What is found in the lines of code is found in the others if it is not found in one of them. -/
theorem filterMap_codeLines_withoutLine {α : Type} {config : Config} {source line : Text} {i : Nat}
    {f : CodeLine → Option α} (hline : (Text.lines source)[i]? = some line)
    (hf : f { number := i + 1, line, lineClass := classify config line } = none) :
    (codeLines config (withoutLine source i)).filterMap f
      = (codeLines config source).filterMap f := by
  rw [codeLines_withoutLine, List.filterMap_filter]
  apply List.filterMap_congr
  intro code hcode
  obtain ⟨j, other, hother, _, rfl⟩ := mem_codeLines_iff.mp hcode
  by_cases hij : j = i
  · subst hij
    cases hline.symm.trans hother
    rw [hf, ite_self]
  · have hnumber : (j + 1 != i + 1) = true := by
      rw [bne_iff_ne]
      omega
    rw [if_pos hnumber]

section Skipped

variable {config : Config} {source line : Text} {i : Nat} {reason : SkipReason}
  (hline : (Text.lines source)[i]? = some line) (hclass : classify config line = .skipped reason)

include hline hclass

/-- A line that is skipped adds nothing to the identifiers of the other lines. -/
theorem identifiers_withoutLine :
    (Scan.ofSource config (withoutLine source i)).identifiers
      = (Scan.ofSource config source).identifiers := by
  have hname : CodeLine.name? ⟨i + 1, line, classify config line⟩ = none := by
    rw [CodeLine.name?, hclass]
  exact congrArg List.eraseDups (filterMap_codeLines_withoutLine hline hname)

/-- Nor to their records. -/
theorem records_withoutLine :
    (Scan.ofSource config (withoutLine source i)).records
      = (Scan.ofSource config source).records := by
  have hrecord : CodeLine.record? ⟨i + 1, line, classify config line⟩ = none := by
    rw [CodeLine.record?, hclass]
  exact filterMap_codeLines_withoutLine hline hrecord

/-- It is listed as skipped under its number, once and with its reason. -/
theorem mem_skipped_and_number_iff (hcode : IsCodeLine line) {entry : SkippedLine} :
    entry ∈ (Scan.ofSource config source).skipped ∧ entry.lineNumber = i + 1 ↔
      entry = { lineNumber := i + 1, text := Text.trim line, reason } := by
  have hmem : (⟨i + 1, line, classify config line⟩ : CodeLine) ∈ codeLines config source :=
    mem_codeLines_iff.mpr ⟨i, line, hline, hcode, rfl⟩
  have hskipped : CodeLine.skipped? ⟨i + 1, line, classify config line⟩
      = some { lineNumber := i + 1, text := Text.trim line, reason } :=
    CodeLine.skipped?_eq_some_iff.mpr ⟨rfl, rfl, hclass⟩
  constructor
  · rintro ⟨hentry, hnumber⟩
    obtain ⟨code, hfound, hlisted⟩ := mem_skipped_iff.mp hentry
    have hsame := eq_of_number_eq hfound hmem
      ((lineNumber_of_skipped? hlisted).symm.trans hnumber)
    rw [hsame] at hlisted
    exact Option.some.inj (hlisted.symm.trans hskipped)
  · rintro rfl
    exact ⟨mem_skipped_iff.mpr ⟨_, hmem, hskipped⟩, rfl⟩

end Skipped

section Declared

variable {config : Config} {source line name : Text} {i : Nat} {record : Option Record}
  (hline : (Text.lines source)[i]? = some line) (hcode : IsCodeLine line)
  (hclass : classify config line = .declaration name record)

include hline hcode hclass

theorem mem_codeLines_of_declaration :
    { number := i + 1, line, lineClass := .declaration name record } ∈ codeLines config source := by
  rw [← hclass]
  exact mem_codeLines_iff.mpr ⟨i, line, hline, hcode, rfl⟩

theorem lineNumber_ne_of_declaration :
    ∀ skipped ∈ (Scan.ofSource config source).skipped, skipped.lineNumber ≠ i + 1 := by
  intro skipped hskipped hnumber
  obtain ⟨code, hmem, hentry⟩ := mem_skipped_iff.mp hskipped
  have hdeclared := mem_codeLines_of_declaration hline hcode hclass
  have hsame := eq_of_number_eq hmem hdeclared ((lineNumber_of_skipped? hentry).symm.trans hnumber)
  rw [hsame] at hentry
  cases hentry

/-- A line that is a declaration adds its identifier to those of the other lines, and nothing
else. -/
theorem mem_identifiers_iff_of_declaration {other : Text} :
    other ∈ (Scan.ofSource config source).identifiers ↔
      other = name ∨ other ∈ (Scan.ofSource config (withoutLine source i)).identifiers := by
  rw [mem_identifiers_iff_exists_line, mem_identifiers_iff_exists_line, lines_withoutLine]
  constructor
  · rintro ⟨found, hfound, hfoundCode, record', hfoundClass⟩
    obtain ⟨j, hget⟩ := List.mem_iff_getElem?.mp hfound
    by_cases hij : i = j
    · subst hij
      cases hline.symm.trans hget
      cases hclass.symm.trans hfoundClass
      exact .inl rfl
    · refine .inr ⟨found, List.mem_of_getElem? (i := j) ?_, hfoundCode, record', hfoundClass⟩
      rw [List.getElem?_set_ne hij, hget]
  · rintro (rfl | ⟨found, hfound, hfoundCode, hrest⟩)
    · exact ⟨line, List.mem_of_getElem? hline, hcode, record, hclass⟩
    · rcases List.mem_or_eq_of_mem_set hfound with hfound | rfl
      · exact ⟨found, hfound, hfoundCode, hrest⟩
      · exact absurd hfoundCode not_isCodeLine_nil

end Declared

end StateOverlay
