/-
The lines that a scan accounts for.

A scan passes over blank lines, directives, and lines that begin with a comment.  Of every other
line it says what became of it: the line is listed as skipped, or it declares an identifier that is
relocated.  A line that begins with a comment is passed over together with the code that may stand
behind the comment.

* `isReported_iff` — the scan accounts for the lines of code and for no other line;
* `isCodeLine_iff_of_withoutComments` — the lines of code among those with something in them besides
  comments;
* `reported_unless_comment_first` — a line with code on it is accounted for unless it begins with a
  comment;
* `commented_declaration_unreported` — a header with a declaration behind a comment.
-/
import StateOverlay.Proofs.Scan.CodeLines
import StateOverlay.Proofs.Text.Comments

namespace StateOverlay

open Comments

/-- The scan of a header accounts for its line `i`, the first line being 0: the line is listed as
skipped, or it is a declaration whose identifier is relocated. -/
def IsReported (config : Config) (source : Text) (i : Nat) : Prop :=
  (∃ skipped ∈ (Scan.ofSource config source).skipped, skipped.lineNumber = i + 1) ∨
    ∃ code ∈ codeLines config source, code.number = i + 1 ∧
      ∃ name ∈ (Scan.ofSource config source).identifiers, code.name? = some name

theorem isCodeLine_of_mem_codeLines {config : Config} {source line : Text} {i : Nat}
    {code : CodeLine} (hline : (Text.lines source)[i]? = some line)
    (hcode : code ∈ codeLines config source) (hnumber : code.number = i + 1) : IsCodeLine line := by
  obtain ⟨j, other, hother, hplain, rfl⟩ := mem_codeLines_iff.mp hcode
  obtain rfl : j = i := Nat.succ.inj hnumber
  cases hline.symm.trans hother
  exact hplain

/-- The scan accounts for the lines of code and for no other line. -/
theorem isReported_iff {config : Config} {source line : Text} {i : Nat}
    (hline : (Text.lines source)[i]? = some line) :
    IsReported config source i ↔ IsCodeLine line := by
  constructor
  · rintro (⟨skipped, hskipped, hnumber⟩ | ⟨code, hcode, hnumber, _⟩)
    · obtain ⟨code, hcode, hentry⟩ := mem_skipped_iff.mp hskipped
      exact isCodeLine_of_mem_codeLines hline hcode
        ((lineNumber_of_skipped? hentry).symm.trans hnumber)
    · exact isCodeLine_of_mem_codeLines hline hcode hnumber
  · intro hplain
    have hcode : ⟨i + 1, line, classify config line⟩ ∈ codeLines config source :=
      mem_codeLines_iff.mpr ⟨i, line, hline, hplain, rfl⟩
    cases hclass : classify config line with
    | declaration name record =>
      rw [hclass] at hcode
      exact .inr ⟨_, hcode, rfl, name, mem_identifiers_iff.mpr ⟨_, hcode, rfl⟩, rfl⟩
    | skipped reason =>
      rw [hclass] at hcode
      exact .inl ⟨_, mem_skipped_iff.mpr ⟨_, hcode, rfl⟩, rfl⟩

/-! ### Lines with something besides comments -/

/-- A directive is one with its comments taken out, too. -/
theorem isDirective_withoutComments {line : Text} (h : isDirective line = true) :
    isDirective (withoutComments line) = true := by
  obtain ⟨margin, hmargin, hline⟩ := exists_blanks_append_trimStart line
  obtain ⟨rest, hstart⟩ := List.head?_eq_some_iff.mp (isDirective_iff.mp h)
  rw [hline, hstart, withoutComments_blanks_append hmargin, withoutComments_cons (by decide),
    isDirective, trim_blanks_append hmargin, trim_cons (by decide)]
  rfl

/-- A blank line is blank with its comments taken out. -/
theorem trim_withoutComments_eq_nil {line : Text} (h : Text.trim line = []) :
    Text.trim (withoutComments line) = [] := by
  have hhead := head?_trim line
  rw [h, List.head?_nil, eq_comm, List.head?_eq_none_iff] at hhead
  obtain ⟨margin, hmargin, hline⟩ := exists_blanks_append_trimStart line
  rw [hhead, List.append_nil] at hline
  have hkept : withoutComments line = line := by
    rw [hline, ← List.append_nil margin, withoutComments_blanks_append hmargin, withoutComments]
  rw [hkept, h]

/-- Of the lines that are neither blank nor directives once their comments are taken out, those that
do not begin with a comment are code. -/
theorem isCodeLine_iff_of_withoutComments {line : Text}
    (hrest : Text.trim (withoutComments line) ≠ [])
    (hplain : isDirective (withoutComments line) = false) :
    IsCodeLine line ↔ ¬ ['/', '*'] <+: Text.trim line := by
  constructor
  · intro hcode hopener
    have hquiet := hcode.loud
    rw [isQuiet, List.isPrefixOf_iff_prefix.mpr hopener, Bool.or_true] at hquiet
    cases hquiet
  · intro hopener
    have hne : Text.trim line ≠ [] := fun hnil => hrest (trim_withoutComments_eq_nil hnil)
    constructor
    · rw [← List.isPrefixOf_iff_prefix, Bool.not_eq_true] at hopener
      rw [isQuiet, hopener, Bool.or_false, List.isEmpty_eq_false_iff]
      exact hne
    · rw [← Bool.not_eq_true]
      intro hdirective
      rw [isDirective_withoutComments hdirective] at hplain
      cases hplain

/-- **No code line vanishes unreported, unless it begins with a comment**: a line that is neither
blank nor a directive once its comments are taken out is listed as skipped or declares a relocated
identifier exactly if it does not begin with a comment. -/
theorem reported_unless_comment_first {config : Config} {source line : Text} {i : Nat}
    (hline : (Text.lines source)[i]? = some line) (hrest : Text.trim (withoutComments line) ≠ [])
    (hplain : isDirective (withoutComments line) = false) :
    IsReported config source i ↔ ¬ ['/', '*'] <+: Text.trim line := by
  rw [isReported_iff hline]
  exact isCodeLine_iff_of_withoutComments hrest hplain

/-- A header with a comment in front of a semicolon, where the line is reported. -/
theorem reported_unless_comment_first_inner :
    let source := "static int a;\n\tint /* b */ b /*;*/ ; /* c\n".toList
    let line := "\tint /* b */ b /*;*/ ; /* c".toList
    (Text.lines source)[1]? = some line ∧
      withoutComments line = "\tint  b  ; /* c".toList ∧ IsReported {} source 1 := by
  intro source line
  have hline : (Text.lines source)[1]? = some line := by decide +kernel
  have hrest : withoutComments line = "\tint  b  ; /* c".toList := by decide +kernel
  refine ⟨hline, hrest, (reported_unless_comment_first hline ?_ ?_).mpr (by decide +kernel)⟩
  · rw [hrest]
    decide +kernel
  · rw [hrest]
    decide +kernel

/-- A declaration behind a comment is passed over: it stands outside of all other comments, and is
neither relocated nor listed. -/
theorem commented_declaration_unreported :
    let source := "static int a;\n/* b */ static int b;\n".toList
    let line := "/* b */ static int b;".toList
    (Scan.ofSource {} source).preamble = [] ∧ (Text.lines source)[1]? = some line ∧
      withoutComments line = " static int b;".toList ∧ ¬ IsInComment source 1 ∧
      (Scan.ofSource {} source).identifiers = ["a".toList] ∧ ¬ IsReported {} source 1 := by
  intro source line
  have hline : (Text.lines source)[1]? = some line := by decide +kernel
  refine ⟨by decide +kernel, hline, by decide +kernel, by decide +kernel, by decide +kernel, ?_⟩
  rw [isReported_iff hline]
  exact fun hcode => nomatch hcode.loud

end StateOverlay
