/-
A rewritten header is recognised, whatever becomes of its layout.

The scan takes a header for rewritten if its live lines, those that are neither blank nor comments,
are all the overlay inclusion.  The new header of a run has exactly one live line, and no change of
layout reaches it:

* `alreadyTransformed_iff` — the recognition, in terms of live lines alone;
* `seenLines_unlines` — what is seen of a text line by line, if quiet lines and outer white space
  are not, as in `liveLines_unlines`;
* `liveLines_newHeader` — the new header of a run has one live line, the inclusion;
* `lines_newHeader` — its lines are those of the old preamble and the inclusion;
* `seenLines_of_layoutEdit`, `liveLines_of_layoutEdit` — a change of layout keeps what is seen, the
  live lines among it;
* `rewritten_header_recognised` — the new header is recognised after any number of such changes.
-/
import Mathlib.Logic.Relation
import StateOverlay.Overlay
import StateOverlay.Proofs.Scan.CodeLines

namespace StateOverlay

/-! ### Views of lines -/

/-- Whether a line is quiet depends on its trim alone. -/
theorem isQuiet_congr {line other : Text} (h : Text.trim line = Text.trim other) :
    isQuiet line = isQuiet other := by
  rw [isQuiet, isQuiet, h]

theorem isQuiet_dropFinal (line : Text) : isQuiet (Text.dropFinal '\r' line) = isQuiet line :=
  isQuiet_congr (trim_dropFinal line)

/-- What a view of single lines sees of a text. -/
def seenLines {α : Type} (view : Text → Option α) (source : Text) : List α :=
  (Text.lines source).filterMap view

/-- A view of single lines that sees no quiet lines, and no outer white space of the others. -/
structure IgnoresLayout {α : Type} (view : Text → Option α) : Prop where
  quiet : ∀ {line : Text}, isQuiet line = true → view line = none
  congr : ∀ {line other : Text}, Text.trim line = Text.trim other → view line = view other

section Views

variable {α : Type} {view : Text → Option α}

/-- What is seen of a text is what is seen in front of a line feed and behind it. -/
theorem seenLines_append_feed (s t : Text) :
    seenLines view (s ++ '\n' :: t) = seenLines view s ++ seenLines view t := by
  rw [seenLines, lines_append_feed, List.filterMap_append]
  rfl

variable (h : IgnoresLayout view)

include h

/-- A single line is seen or not, and its carriage return makes no difference. -/
theorem seenLines_line {line : Text} (hline : '\n' ∉ line) :
    seenLines view line = (view line).toList := by
  rw [seenLines, lines_eq_singleton hline, List.filterMap_cons, h.congr (trim_dropFinal line)]
  cases view line with
  | none => rfl
  | some found => rfl

/-- What is seen of a text, line by line. -/
theorem seenLines_unlines (lines : List Text) :
    seenLines view (Text.unlines lines) = lines.flatMap (seenLines view) := by
  by_cases hne : lines = []
  · -- a text has a line, but this one is empty
    subst hne
    rw [Text.unlines, List.intercalate_nil, seenLines_line h List.not_mem_nil, h.quiet rfl]
    rfl
  · rw [seenLines, lines_unlines_eq_flatMap hne, List.filterMap_flatMap]
    rfl

end Views

/-! ### Live lines -/

/-- The lines of a text that are neither blank nor comments, without outer white space. -/
def liveLines (source : Text) : List Text :=
  ((Text.lines source).filter (!isQuiet ·)).map Text.trim

/-- A line without outer white space, if it is live. -/
def liveLine? (line : Text) : Option Text := if isQuiet line then none else some (Text.trim line)

theorem ignoresLayout_liveLine? : IgnoresLayout liveLine? where
  quiet hquiet := if_pos hquiet
  congr htrim := by rw [liveLine?, liveLine?, isQuiet_congr htrim, htrim]

/-- The live lines are found by looking at one line after another. -/
theorem liveLines_eq (source : Text) : liveLines source = seenLines liveLine? source := by
  rw [liveLines, seenLines]
  induction Text.lines source with
  | nil => rfl
  | cons line lines ih =>
    rw [List.filterMap_cons, liveLine?]
    cases hquiet : isQuiet line with
    | true => rw [List.filter_cons_of_neg (by simp [hquiet]), ih]; rfl
    | false => rw [List.filter_cons_of_pos (by simp [hquiet]), List.map_cons, ih]; rfl

/-- The live lines of a text are those in front of a line feed and those behind it. -/
theorem liveLines_append_feed (s t : Text) :
    liveLines (s ++ '\n' :: t) = liveLines s ++ liveLines t := by
  rw [liveLines_eq, liveLines_eq, liveLines_eq, seenLines_append_feed]

/-- The live lines of a text, line by line. -/
theorem liveLines_unlines (lines : List Text) :
    liveLines (Text.unlines lines) = lines.flatMap liveLines := by
  have hview : liveLines = seenLines liveLine? := funext liveLines_eq
  rw [hview, seenLines_unlines ignoresLayout_liveLine?]

/-- A single line is live or not. -/
theorem liveLines_line {line : Text} (h : '\n' ∉ line) :
    liveLines line = if isQuiet line then [] else [Text.trim line] := by
  rw [liveLines_eq, seenLines_line ignoresLayout_liveLine? h, liveLine?]
  cases isQuiet line with
  | true => rfl
  | false => rfl

/-! ### Recognition -/

/-- The overlay inclusion is a line without outer white space. -/
theorem trim_overlayInclude (config : Config) :
    Text.trim config.overlayInclude = config.overlayInclude := trim_includeLine _

theorem isQuiet_overlayInclude (config : Config) : isQuiet config.overlayInclude = false := by
  rw [isQuiet, trim_overlayInclude]
  rfl

/-- What the scan sees of a body line is its live line. -/
theorem trim_map_bodyLines (source : Text) :
    (bodyLines source).map (fun line => Text.trim line.1) = liveLines source := by
  have hfilter : (bodyLines source).map Prod.fst = (Text.lines source).filter (!isQuiet ·) := by
    rw [bodyLines_eq]
    conv_rhs => rw [← List.zipIdx_map_fst 1 (Text.lines source), List.filter_map]
    rfl
  rw [liveLines, ← hfilter, List.map_map]
  rfl

/-- A header is taken for rewritten exactly if it has live lines and all of them are the overlay
inclusion. -/
theorem alreadyTransformed_iff {config : Config} {source : Text} :
    (Scan.ofSource config source).alreadyTransformed = true ↔
      liveLines source ≠ [] ∧ ∀ line ∈ liveLines source, line = config.overlayInclude := by
  rw [← trim_map_bodyLines, List.forall_mem_map]
  simp [Scan.ofSource]

/-- A rewritten header has no line of code. -/
theorem codeLines_eq_nil {config : Config} {source : Text}
    (h : ∀ line ∈ liveLines source, line = config.overlayInclude) :
    codeLines config source = [] := by
  rw [codeLines, List.map_eq_nil_iff, List.filter_eq_nil_iff]
  intro line hline
  have hlive : Text.trim line.1 ∈ liveLines source := by
    rw [← trim_map_bodyLines]
    exact List.mem_map_of_mem hline
  have hdirective : isDirective line.1 = true := by
    rw [isDirective, h _ hlive]
    rfl
  simp [hdirective]

/-- A scan that found nothing but the overlay inclusion of an earlier run. -/
structure Scan.IsRewritten (scan : Scan) : Prop where
  alreadyTransformed : scan.alreadyTransformed = true
  identifiers : scan.identifiers = []
  records : scan.records = []
  skipped : scan.skipped = []

/-- A scan of a header that is transformed already found nothing else. -/
theorem isRewritten_of_alreadyTransformed {config : Config} {source : Text}
    (h : (Scan.ofSource config source).alreadyTransformed = true) :
    (Scan.ofSource config source).IsRewritten := by
  have hcode := codeLines_eq_nil (alreadyTransformed_iff.mp h).2
  refine ⟨h, ?_, ?_, ?_⟩
  · show ((codeLines config source).filterMap CodeLine.name?).eraseDups = []
    rw [hcode]; rfl
  · show (codeLines config source).filterMap CodeLine.record? = []
    rw [hcode]; rfl
  · show (codeLines config source).filterMap CodeLine.skipped? = []
    rw [hcode]; rfl

/-- A header whose one live line is the overlay inclusion scans as a rewritten one. -/
theorem isRewritten_of_liveLines {config : Config} {source : Text}
    (h : liveLines source = [config.overlayInclude]) :
    (Scan.ofSource config source).IsRewritten := by
  apply isRewritten_of_alreadyTransformed
  rw [alreadyTransformed_iff, h]
  exact ⟨List.cons_ne_nil _ _, fun line hline => List.mem_singleton.mp hline⟩

/-! ### The new header -/

theorem isQuiet_of_mem_preamble {source line : Text} (h : line ∈ preambleLines source) :
    isQuiet line = true :=
  List.mem_takeWhile_imp h

theorem not_mem_of_mem_preamble {source line : Text} (h : line ∈ preambleLines source) :
    '\n' ∉ line :=
  not_mem_of_mem_lines ((List.takeWhile_prefix _).subset h)

theorem not_mem_overlayInclude {config : Config} (h : '\n' ∉ config.overlayFile) :
    '\n' ∉ config.overlayInclude := not_mem_includeLine h

/-- The new header of a run: the preamble of the old one and one overlay inclusion. -/
def newHeader (config : Config) (source : Text) : Text :=
  (Overlay.generate config (Scan.ofSource config source)).header

theorem newHeader_eq (config : Config) (source : Text) :
    newHeader config source
      = Text.unlines (preambleLines source ++ [config.overlayInclude, []]) := rfl

/-- The one live line of a new header is the overlay inclusion. -/
theorem liveLines_newHeader {config : Config} (h : '\n' ∉ config.overlayFile) (source : Text) :
    liveLines (newHeader config source) = [config.overlayInclude] := by
  have hpreamble : (preambleLines source).flatMap liveLines = [] := by
    rw [List.flatMap_eq_nil_iff]
    intro line hline
    rw [liveLines_line (not_mem_of_mem_preamble hline), if_pos (isQuiet_of_mem_preamble hline)]
  have hinclude : liveLines config.overlayInclude = [config.overlayInclude] := by
    rw [liveLines_line (not_mem_overlayInclude h), isQuiet_overlayInclude, trim_overlayInclude]
    rfl
  rw [newHeader_eq, liveLines_unlines, List.flatMap_append, hpreamble, List.flatMap_cons, hinclude]
  rfl

/-- The lines of a new header: those of the old preamble, each without one final carriage return,
the inclusion, and nothing behind its line feed. -/
theorem lines_newHeader {config : Config} (h : '\n' ∉ config.overlayFile) (source : Text) :
    Text.lines (newHeader config source)
      = (preambleLines source).map (Text.dropFinal '\r') ++ [config.overlayInclude, []] := by
  have hfeeds : ∀ line ∈ preambleLines source ++ [config.overlayInclude, []], '\n' ∉ line := by
    intro line hline
    rcases List.mem_append.mp hline with hline | hline
    · exact not_mem_of_mem_preamble hline
    · simp only [List.mem_cons, List.not_mem_nil, or_false] at hline
      rcases hline with rfl | rfl
      · exact not_mem_overlayInclude h
      · exact List.not_mem_nil
  have hlast : config.overlayInclude.getLast? = some '"' := List.getLast?_concat
  have hinclude : Text.dropFinal '\r' config.overlayInclude = config.overlayInclude := by
    rw [Text.dropFinal, hlast]
    rfl
  rw [newHeader_eq, lines_unlines (by simp) hfeeds, List.map_append, List.map_cons, hinclude]
  rfl

/-- The preamble of a new header is the old one, each line without one final carriage return. -/
theorem preamble_newHeader {config : Config} (h : '\n' ∉ config.overlayFile) (source : Text) :
    preambleLines (newHeader config source)
      = (preambleLines source).map (Text.dropFinal '\r') := by
  have hquiet : ∀ line ∈ (preambleLines source).map (Text.dropFinal '\r'), isQuiet line = true := by
    intro line hline
    obtain ⟨old, hold, rfl⟩ := List.mem_map.mp hline
    rw [isQuiet_dropFinal]
    exact isQuiet_of_mem_preamble hold
  rw [preambleLines, lines_newHeader h, List.takeWhile_append_of_pos hquiet,
    List.takeWhile_cons_of_neg (by simp [isQuiet_overlayInclude]), List.append_nil]

/-! ### Changes of layout -/

/-- A line that is blank, or begins with a block comment behind white space if any. -/
def IsQuietLine (line : Text) : Prop :=
  '\n' ∉ line ∧ ((∀ c ∈ line, isBlank c) ∨
    ∃ margin rest, (∀ c ∈ margin, isBlank c) ∧ line = margin ++ '/' :: '*' :: rest)

/-- White space inside a line. -/
def IsMargin (margin : Text) : Prop := '\n' ∉ margin ∧ ∀ c ∈ margin, isBlank c

/-- One change to the layout of a text: a line ending becomes a carriage return with a line feed or
a line feed alone, the white space around a line changes, or a quiet line comes or goes. -/
inductive LayoutEdit : Text → Text → Prop
  | crlf {before : List Text} {line next : Text} {after : List Text} (hline : '\n' ∉ line) :
    LayoutEdit (Text.unlines (before ++ line :: next :: after))
      (Text.unlines (before ++ (line ++ ['\r']) :: next :: after))
  | lf {before : List Text} {line next : Text} {after : List Text} (hline : '\n' ∉ line) :
    LayoutEdit (Text.unlines (before ++ (line ++ ['\r']) :: next :: after))
      (Text.unlines (before ++ line :: next :: after))
  | margins {before after : List Text} {left left' core right right' : Text} (hcore : '\n' ∉ core)
      (hleft : IsMargin left) (hleft' : IsMargin left') (hright : IsMargin right)
      (hright' : IsMargin right') :
    LayoutEdit (Text.unlines (before ++ (left ++ core ++ right) :: after))
      (Text.unlines (before ++ (left' ++ core ++ right') :: after))
  | insertLine {before after : List Text} {line : Text} (hline : IsQuietLine line) :
    LayoutEdit (Text.unlines (before ++ after)) (Text.unlines (before ++ line :: after))
  | deleteLine {before after : List Text} {line : Text} (hline : IsQuietLine line) :
    LayoutEdit (Text.unlines (before ++ line :: after)) (Text.unlines (before ++ after))

theorem isQuiet_of_isQuietLine {line : Text} (h : IsQuietLine line) : isQuiet line = true := by
  rcases h.2 with hblank | ⟨margin, rest, hmargin, rfl⟩
  · have htrim : Text.trim line = [] := by
      rw [← List.append_nil line, trim_blanks_append hblank]
      rfl
    rw [isQuiet, htrim]
    rfl
  · rw [isQuiet, trim_blanks_append hmargin, trim_cons (by decide), trimEnd_cons (by decide)]
    rfl

/-- A line that is read as quiet is so in one of the two ways. -/
theorem isQuietLine_of_isQuiet {line : Text} (hfeed : '\n' ∉ line) (h : isQuiet line = true) :
    IsQuietLine line := by
  obtain ⟨margin, hmargin, hline⟩ := exists_blanks_append_trimStart line
  refine ⟨hfeed, ?_⟩
  rcases isQuiet_iff.mp h with hblank | ⟨rest, hrest⟩
  · rw [hblank, List.append_nil] at hline
    exact .inl (hline ▸ hmargin)
  · rw [← hrest] at hline
    exact .inr ⟨margin, rest, hmargin, hline⟩

theorem isQuiet_eq_false_iff {line : Text} (hfeed : '\n' ∉ line) :
    isQuiet line = false ↔ ¬ IsQuietLine line := by
  rw [← Bool.not_eq_true]
  exact not_congr ⟨isQuietLine_of_isQuiet hfeed, isQuiet_of_isQuietLine⟩

instance : DecidablePred IsQuietLine := fun line =>
  decidable_of_iff ('\n' ∉ line ∧ isQuiet line = true)
    ⟨fun h => isQuietLine_of_isQuiet h.1 h.2, fun h => ⟨h.1, isQuiet_of_isQuietLine h⟩⟩

section LayoutEdits

variable {α : Type} {view : Text → Option α} (h : IgnoresLayout view)

include h

/-- A quiet line is not seen. -/
theorem seenLines_of_isQuietLine {line : Text} (hline : IsQuietLine line) :
    seenLines view line = [] := by
  rw [seenLines_line h hline.1, h.quiet (isQuiet_of_isQuietLine hline)]
  rfl

/-- The white space around a line does not matter to whether and how it is seen. -/
theorem seenLines_margins {left core right : Text} (hcore : '\n' ∉ core) (hleft : IsMargin left)
    (hright : IsMargin right) : seenLines view (left ++ core ++ right) = seenLines view core := by
  have hfeed : '\n' ∉ left ++ core ++ right :=
    List.not_mem_append (List.not_mem_append hleft.1 hcore) hright.1
  have htrim : Text.trim (left ++ core ++ right) = Text.trim core := by
    rw [trim_append_blanks hright.2, trim_blanks_append hleft.2]
  rw [seenLines_line h hfeed, seenLines_line h hcore, h.congr htrim]

theorem seenLines_carriageReturn {line : Text} (hline : '\n' ∉ line) :
    seenLines view (line ++ ['\r']) = seenLines view line :=
  @seenLines_margins _ _ h [] line ['\r'] hline ⟨by decide, List.forall_mem_nil _⟩
    ⟨by decide, List.forall_mem_singleton.mpr (by decide)⟩

/-- A view that ignores the layout sees the same after a change of layout. -/
theorem seenLines_of_layoutEdit {s t : Text} (hedit : LayoutEdit s t) :
    seenLines view s = seenLines view t := by
  cases hedit with
  | crlf hline =>
    simp only [seenLines_unlines h, List.flatMap_append, List.flatMap_cons,
      seenLines_carriageReturn h hline]
  | lf hline =>
    simp only [seenLines_unlines h, List.flatMap_append, List.flatMap_cons,
      seenLines_carriageReturn h hline]
  | margins hcore hleft hleft' hright hright' =>
    simp only [seenLines_unlines h, List.flatMap_append, List.flatMap_cons,
      seenLines_margins h hcore hleft hright, seenLines_margins h hcore hleft' hright']
  | insertLine hline =>
    simp only [seenLines_unlines h, List.flatMap_append, List.flatMap_cons,
      seenLines_of_isQuietLine h hline, List.nil_append]
  | deleteLine hline =>
    simp only [seenLines_unlines h, List.flatMap_append, List.flatMap_cons,
      seenLines_of_isQuietLine h hline, List.nil_append]

end LayoutEdits

/-- A change of layout keeps the live lines. -/
theorem liveLines_of_layoutEdit {s t : Text} (h : LayoutEdit s t) : liveLines s = liveLines t := by
  rw [liveLines_eq, liveLines_eq, seenLines_of_layoutEdit ignoresLayout_liveLine? h]

theorem liveLines_of_layoutEdits {s t : Text} (h : Relation.ReflTransGen LayoutEdit s t) :
    liveLines s = liveLines t := by
  induction h with
  | refl => rfl
  | tail _ hedit ih => exact ih.trans (liveLines_of_layoutEdit hedit)

/-- **A rewritten header is always recognised**: scanning the new header of a run finds nothing but
the inclusion and the old preamble, and nothing but the inclusion after any number of changes to its
layout. -/
theorem rewritten_header_recognised (config : Config) (hfile : '\n' ∉ config.overlayFile)
    (source : Text) :
    let old := Scan.ofSource config source
    let header := (Overlay.generate config old).header
    (Scan.ofSource config header).IsRewritten ∧
      (Scan.ofSource config header).preamble = old.preamble.map (Text.dropFinal '\r') ∧
      ∀ edited, Relation.ReflTransGen LayoutEdit header edited →
        (Scan.ofSource config edited).IsRewritten := by
  have hlive := liveLines_newHeader hfile source
  refine ⟨isRewritten_of_liveLines hlive, preamble_newHeader hfile source, ?_⟩
  intro edited hedits
  exact isRewritten_of_liveLines ((liveLines_of_layoutEdits hedits).symm.trans hlive)

/-- A header with a doubled carriage return, its new header, and that behind a comment. -/
theorem rewritten_header_recognised_doubled :
    let source := "/* a */\r\r\nint x;\n".toList
    let header := "/* a */\r\n#include \"cobolana_locals_overlay.h\"\n".toList
    '\n' ∉ ({} : Config).overlayFile ∧
      (Overlay.generate {} (Scan.ofSource {} source)).header = header ∧
      (Scan.ofSource {} header).IsRewritten ∧
      (Scan.ofSource {} header).preamble = ["/* a */".toList] ∧
      (Scan.ofSource {} ("/* b */\n".toList ++ header)).IsRewritten := by
  intro source header
  have hfile : '\n' ∉ ({} : Config).overlayFile := by decide
  have hheader : (Overlay.generate {} (Scan.ofSource {} source)).header = header := by decide
  obtain ⟨hscan, hpreamble, hedits⟩ := rewritten_header_recognised {} hfile source
  rw [hheader] at hscan hpreamble hedits
  refine ⟨hfile, hheader, hscan, hpreamble.trans (by decide), hedits _ (.single ?_)⟩
  have hline : IsQuietLine "/* b */".toList := ⟨by decide, .inr ⟨[], " b */".toList, by simp, rfl⟩⟩
  exact @LayoutEdit.insertLine [] [header] _ hline

end StateOverlay
