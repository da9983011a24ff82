/-
The text of a new header.

A run takes a header apart into lines and joins those of the preamble again, and all that is lost
on the way is a carriage return at the end of each line:

* `Text.withoutReturns` — a text without the carriage returns that end its lines;
* `unlines_lines` — taking a text apart and joining its lines again does no more than that;
* `BeginsBody`, `exists_beginsBody` — the place where the first line of the body begins;
* `preamble_preserved` — a new header is the text up to that place, and the overlay inclusion.
-/
import StateOverlay.Proofs.Scan.Recognition

namespace StateOverlay

/-! ### Carriage returns -/

/-- A text without the carriage return directly in front of each of its line feeds. -/
def Text.withoutReturns : Text → Text
  | [] => []
  | c :: rest =>
    if c = '\r' ∧ rest.head? = some '\n' then Text.withoutReturns rest
    else c :: Text.withoutReturns rest

theorem withoutReturns_eq_nil_iff {s : Text} : Text.withoutReturns s = [] ↔ s = [] := by
  induction s with
  | nil => simp [Text.withoutReturns]
  | cons c s ih =>
    rw [Text.withoutReturns]
    split
    · case isTrue hreturn =>
      have hne : s ≠ [] := by
        rintro rfl
        cases hreturn.2
      simp [ih, hne]
    · simp

theorem dropFinal_cons {c d : Char} {s : Text} (hs : s ≠ []) :
    Text.dropFinal c (d :: s) = d :: Text.dropFinal c s := by
  rw [Text.dropFinal, Text.dropFinal, List.getLast?_cons_of_ne_nil hs]
  split
  · exact List.dropLast_cons_of_ne_nil hs
  · rfl

theorem dropFinal_append {c : Char} (s : Text) {rest : Text} (hrest : rest ≠ []) :
    Text.dropFinal c (s ++ rest) = s ++ Text.dropFinal c rest := by
  induction s with
  | nil => rfl
  | cons d s ih =>
    rw [List.cons_append, dropFinal_cons (List.append_ne_nil_of_right_ne_nil s hrest), ih,
      List.cons_append]

theorem dropFinal_eq_self {c : Char} {s : Text} (h : s.getLast? ≠ some c) :
    Text.dropFinal c s = s := if_neg h

/-- In front of a line feed one carriage return is left out, wherever the line feed stands. -/
theorem withoutReturns_append_feed (s rest : Text) :
    Text.withoutReturns (s ++ '\n' :: rest)
      = Text.dropFinal '\r' (Text.withoutReturns s) ++ '\n' :: Text.withoutReturns rest := by
  have hfeed : Text.withoutReturns ('\n' :: rest) = '\n' :: Text.withoutReturns rest :=
    if_neg fun h => absurd h.1 (by decide)
  induction s with
  | nil => exact hfeed
  | cons c s ih =>
    cases s with
    | nil =>
      -- the character stands directly in front of the line feed
      by_cases hc : c = '\r'
      · subst hc
        exact hfeed
      · have hkept : ∀ t : Text, Text.withoutReturns (c :: t) = c :: Text.withoutReturns t :=
          fun t => if_neg fun h => hc h.1
        have hlast : [c].getLast? ≠ some '\r' := fun h => hc (Option.some.inj h)
        rw [List.cons_append, List.nil_append, hkept, hkept, hfeed, Text.withoutReturns,
          dropFinal_eq_self hlast]
        rfl
    | cons d s =>
      rw [List.cons_append, Text.withoutReturns, Text.withoutReturns, ih]
      show (if c = '\r' ∧ some d = some '\n' then _ else _)
        = Text.dropFinal '\r' (if c = '\r' ∧ some d = some '\n' then _ else _) ++ _
      split
      · rfl
      · rw [dropFinal_cons (withoutReturns_eq_nil_iff.not.mpr (List.cons_ne_nil d s))]
        rfl

theorem withoutReturns_eq_self {s : Text} (h : '\n' ∉ s) : Text.withoutReturns s = s := by
  induction s with
  | nil => rfl
  | cons c s ih =>
    rw [List.mem_cons, not_or] at h
    rw [Text.withoutReturns, if_neg, ih h.2]
    rintro ⟨_, hhead⟩
    exact h.2 (List.mem_of_head? hhead)

/-- The lines of a text joined again are the text without the carriage returns at their ends. -/
theorem unlines_lines (s : Text) :
    Text.unlines (Text.lines s) = Text.dropFinal '\r' (Text.withoutReturns s) := by
  induction s using line_induction with
  | last s hs => rw [lines_eq_singleton hs, unlines_singleton, withoutReturns_eq_self hs]
  | line line rest hline ih =>
    have hrest : Text.dropFinal '\r' ('\n' :: Text.withoutReturns rest)
        = '\n' :: Text.dropFinal '\r' (Text.withoutReturns rest) := by
      by_cases hne : rest = []
      · rw [hne]
        rfl
      · exact dropFinal_cons (withoutReturns_eq_nil_iff.not.mpr hne)
    rw [lines_append_feed, unlines_append (lines_ne_nil line) (lines_ne_nil rest),
      lines_eq_singleton hline, unlines_singleton, ih, withoutReturns_append_feed,
      withoutReturns_eq_self hline, dropFinal_append _ (List.cons_ne_nil _ _), hrest]

/-! ### The place of the body -/

/-- The first line of a text as it stands there, up to its line feed. -/
def firstLine (s : Text) : Text := s.takeWhile (· != '\n')

theorem firstLine_eq_self {s : Text} (h : '\n' ∉ s) : firstLine s = s :=
  List.takeWhile_eq_self_iff.mpr fun _ hc => bne_iff_ne.mpr fun heq => h (heq ▸ hc)

theorem firstLine_append_feed {line : Text} (h : '\n' ∉ line) (rest : Text) :
    firstLine (line ++ '\n' :: rest) = line := (takeWhile_ne_append h rest).1

/-- The lines of a text begin with its first, without one final carriage return. -/
theorem exists_lines_eq_cons (s : Text) :
    ∃ rest, Text.lines s = Text.dropFinal '\r' (firstLine s) :: rest := by
  induction s using line_induction with
  | last s hs => exact ⟨[], by rw [firstLine_eq_self hs, lines_eq_singleton hs]⟩
  | line line rest hline _ =>
    exact ⟨Text.lines rest, by
      rw [firstLine_append_feed hline, lines_append_feed, lines_eq_singleton hline]
      rfl⟩

theorem not_mem_firstLine (s : Text) : '\n' ∉ firstLine s :=
  fun hmem => absurd (List.mem_takeWhile_imp (p := (· != '\n')) hmem) (by decide)

/-- A source text is cut where the first of its lines begins that is not quiet. -/
structure BeginsBody (source front body : Text) : Prop where
  parts : source = front ++ body
  /-- The cut is at the beginning of a line. -/
  whole : front = [] ∨ front.getLast? = some '\n'
  quiet : ∀ line ∈ Text.lines front, IsQuietLine line
  loud : ¬ IsQuietLine (firstLine body)

theorem BeginsBody.of_loud {source : Text} (h : ¬ IsQuietLine (firstLine source)) :
    BeginsBody source [] source :=
  ⟨rfl, .inl rfl, List.forall_mem_singleton.mpr (by decide), h⟩

theorem BeginsBody.append_feed {line source front body : Text}
    (h : BeginsBody source front body)
    (hline : ∀ first ∈ Text.lines line, IsQuietLine first) :
    BeginsBody (line ++ '\n' :: source) (line ++ '\n' :: front) body where
  parts := by rw [h.parts, List.append_assoc, List.cons_append]
  whole := by
    refine .inr ?_
    rw [List.getLast?_append, List.getLast?_cons]
    rcases h.whole with hfront | hfront <;> simp [hfront]
  quiet := by
    rw [lines_append_feed]
    exact List.forall_mem_append.mpr ⟨hline, h.quiet⟩
  loud := h.loud

/-- A line is quiet with a final carriage return as without it. -/
theorem isQuietLine_of_mem_lines {line first : Text} (hline : '\n' ∉ line)
    (hfirst : first ∈ Text.lines line) : IsQuietLine first ↔ IsQuietLine line := by
  have hfeed := not_mem_of_mem_lines hfirst
  rw [lines_eq_singleton hline, List.mem_singleton] at hfirst
  rw [← not_iff_not, ← isQuiet_eq_false_iff hfeed, ← isQuiet_eq_false_iff hline, hfirst,
    isQuiet_dropFinal]

/-- There is such a place if some line is not quiet. -/
theorem exists_beginsBody {source : Text} (h : ∃ line ∈ Text.lines source, ¬ IsQuietLine line) :
    ∃ front body, BeginsBody source front body := by
  induction source using line_induction with
  | last s hs =>
    obtain ⟨line, hline, hloud⟩ := h
    rw [isQuietLine_of_mem_lines hs hline] at hloud
    exact ⟨[], s, .of_loud (by rwa [firstLine_eq_self hs])⟩
  | line first rest hfirst ih =>
    by_cases hquiet : IsQuietLine first
    · have hlines : ∀ line ∈ Text.lines first, IsQuietLine line :=
        fun line hmem => (isQuietLine_of_mem_lines hfirst hmem).mpr hquiet
      obtain ⟨line, hline, hloud⟩ := h
      rw [lines_append_feed, List.mem_append] at hline
      have hrest : line ∈ Text.lines rest :=
        hline.resolve_left fun hmem => hloud (hlines line hmem)
      obtain ⟨front, body, hbody⟩ := ih ⟨line, hrest, hloud⟩
      exact ⟨_, body, hbody.append_feed hlines⟩
    · exact ⟨[], _, .of_loud (by rwa [firstLine_append_feed hfirst])⟩

/-- The preamble ends there: it has the lines in front of the place, if there are any. -/
theorem BeginsBody.preambleLines_eq {source front body : Text} (h : BeginsBody source front body) :
    (front = [] ∧ preambleLines source = []) ∨
      ∃ quiet, front = quiet ++ ['\n'] ∧ preambleLines source = Text.lines quiet := by
  obtain ⟨rest, hrest⟩ := exists_lines_eq_cons body
  have hloud := (isQuiet_eq_false_iff (not_mem_firstLine body)).mpr h.loud
  have hstop : (Text.lines body).takeWhile isQuiet = [] := by
    rw [hrest, List.takeWhile_cons_of_neg]
    simp [isQuiet_dropFinal, hloud]
  rcases h.whole with hfront | hfront
  · refine .inl ⟨hfront, ?_⟩
    rw [preambleLines, h.parts, hfront, List.nil_append, hstop]
  · obtain ⟨quiet, rfl⟩ := List.getLast?_eq_some_iff.mp hfront
    have hlines := fun line hline => isQuiet_of_isQuietLine (h.quiet line hline)
    rw [lines_append_feed, List.forall_mem_append] at hlines
    refine .inr ⟨quiet, rfl, ?_⟩
    rw [preambleLines, h.parts, List.append_assoc, List.singleton_append, lines_append_feed,
      List.takeWhile_append_of_pos hlines.1, hstop, List.append_nil]

/-! ### The new header -/

/-- A new header is the source text up to its body without the carriage returns in front of line
feeds, the overlay inclusion and a line feed.  If there is no body, it is all of the source text
without one carriage return at the end of each line, and a line feed in front of the inclusion. -/
theorem preamble_preserved (config : Config) (source : Text) :
    (∀ front body, BeginsBody source front body →
      newHeader config source
        = Text.withoutReturns front ++ (config.overlayInclude ++ ['\n'])) ∧
    ((∃ line ∈ Text.lines source, ¬ IsQuietLine line) →
      ∃ front body, BeginsBody source front body) ∧
    ((∀ line ∈ Text.lines source, IsQuietLine line) →
      newHeader config source
        = Text.dropFinal '\r' (Text.withoutReturns source)
          ++ '\n' :: (config.overlayInclude ++ ['\n'])) := by
  have hinclusion : Text.unlines [config.overlayInclude, []] = config.overlayInclude ++ ['\n'] := by
    rw [unlines_cons_cons, unlines_singleton]
  -- the inclusion stands behind the lines of the preamble
  have hheader : ∀ quiet, preambleLines source = Text.lines quiet → newHeader config source
      = Text.dropFinal '\r' (Text.withoutReturns quiet)
        ++ '\n' :: (config.overlayInclude ++ ['\n']) := by
    intro quiet hpreamble
    rw [newHeader_eq, hpreamble, unlines_append (lines_ne_nil quiet) (List.cons_ne_nil _ _),
      unlines_lines, hinclusion]
  refine ⟨fun front body hbody => ?_, exists_beginsBody, fun hquiet => ?_⟩
  · rcases hbody.preambleLines_eq with ⟨rfl, hpreamble⟩ | ⟨quiet, rfl, hpreamble⟩
    · rw [newHeader_eq, hpreamble, List.nil_append, hinclusion]
      rfl
    · rw [hheader quiet hpreamble, withoutReturns_append_feed]
      simp [Text.withoutReturns]
  · exact hheader source (List.takeWhile_eq_self_iff.mpr fun line hline =>
      isQuiet_of_isQuietLine (hquiet line hline))

/-- A header with a carriage return at the end of each line, two of them on its blank line. -/
theorem returns_left_out :
    newHeader {} "/* made */\r\n\r\r\nstatic int x;\r\n".toList
      = "/* made */\n\r\n".toList ++ (({} : Config).overlayInclude ++ ['\n']) :=
  (preamble_preserved {} "/* made */\r\n\r\r\nstatic int x;\r\n".toList).1
    "/* made */\r\n\r\r\n".toList "static int x;\r\n".toList
    ⟨rfl, .inr rfl, by decide +kernel, by decide +kernel⟩

end StateOverlay
