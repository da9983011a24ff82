/-
Lines and trimming.

A text is its lines with a line feed between each two, whatever the lines hold, so that what is
computed line by line can be computed on pieces of a text and put together:

* `unlines_cons_cons` — the first of several lines ends at a line feed;
* `not_mem_of_mem_splitOn` — a piece between line feeds holds none;
* `lines_unlines` — reading lines back takes one carriage return off each at most;
* `line_induction` — a text can be gone through line by line;
* `lines_unlines_eq_flatMap` — the lines of joined texts are those of the texts;
* `infix_of_mem_lines` — each line of a text stands in it;
* `trim_blanks_append`, `trim_append_blanks` — margins do not show in a trimmed text;
* `trim_append_append` — trimming stops at a part with no white space at either end;
* `search_append_of_none` — a search passes over what its test does not answer on;
* `occursIn_iff` — the search for a fixed text finds it wherever it stands;
* `cutAt?_eq_some_iff` — a text is cut at the first place where a fixed text stands;
* `trim_includeLine`, `not_mem_includeLine` — the line of an inclusion is one line and no more.
-/
import Mathlib.Data.List.Basic
import Mathlib.Data.List.TakeWhile
import Mathlib.Tactic.ByContra
import StateOverlay.Config
import StateOverlay.Text.Blank

namespace StateOverlay

/-- Whether something holds of all characters of a text is decided by going through the text.  There
are finitely many characters, and a search for a decision may go through all of them. -/
instance (priority := high) decidableForallMem {p : Char → Prop} [DecidablePred p] (s : Text) :
    Decidable (∀ c ∈ s, p c) := List.decidableBAll p s

/-! ### Lines -/

/-- The first of several lines ends at a line feed. -/
theorem unlines_cons_cons (line next : Text) (rest : List Text) :
    Text.unlines (line :: next :: rest) = line ++ '\n' :: Text.unlines (next :: rest) := by
  rw [Text.unlines, List.intercalate_cons_cons, List.append_assoc]
  rfl

theorem unlines_singleton (line : Text) : Text.unlines [line] = line := by
  simp [Text.unlines]

/-- No piece between two separators holds the separator. -/
theorem not_mem_of_mem_splitOn {α : Type} [BEq α] [LawfulBEq α] {separator : α} {s piece : List α}
    (h : piece ∈ s.splitOn separator) : separator ∉ piece := by
  induction s generalizing piece with
  | nil =>
    rw [List.splitOn_nil, List.mem_singleton] at h
    rw [h]
    exact List.not_mem_nil
  | cons c s ih =>
    rw [List.splitOn_cons_eq_if_modifyHead] at h
    by_cases hc : c = separator
    · rw [if_pos (beq_iff_eq.mpr hc), List.mem_cons] at h
      rcases h with rfl | h
      · exact List.not_mem_nil
      · exact ih h
    · rw [if_neg (by simpa using hc)] at h
      obtain ⟨first, rest, hsplit⟩ := List.exists_cons_of_ne_nil (List.splitOn_ne_nil separator s)
      rw [hsplit, List.modifyHead_cons, List.mem_cons] at h
      rcases h with rfl | h
      · -- the first piece grows by a character that is no separator
        rw [List.mem_cons, not_or]
        exact ⟨Ne.symm hc, ih (hsplit ▸ List.mem_cons_self)⟩
      · exact ih (hsplit ▸ List.mem_cons_of_mem _ h)

/-- Each of some pieces stands in one piece in what they are joined to. -/
theorem infix_intercalate {separator piece : Text} {pieces : List Text} (h : piece ∈ pieces) :
    piece <:+: separator.intercalate pieces := by
  induction pieces with
  | nil => exact absurd h List.not_mem_nil
  | cons first rest ih =>
    cases rest with
    | nil =>
      obtain rfl := List.mem_singleton.mp h
      exact ⟨[], [], by rw [List.intercalate_singleton, List.nil_append, List.append_nil]⟩
    | cons next rest =>
      rw [List.intercalate_cons_cons]
      rcases List.mem_cons.mp h with rfl | h
      · exact ((List.prefix_append _ _).trans (List.prefix_append _ _)).isInfix
      · exact (ih h).trans (List.suffix_append _ _).isInfix

/-- Each piece between two separators stands in the text. -/
theorem infix_of_mem_splitOn {separator : Char} {s piece : Text}
    (h : piece ∈ s.splitOn separator) : piece <:+: s := by
  have hinfix := @infix_intercalate [separator] piece _ h
  rwa [List.intercalate_splitOn] at hinfix

theorem dropFinal_isPrefix (c : Char) (s : Text) : Text.dropFinal c s <+: s := by
  rw [Text.dropFinal]
  split
  · exact List.dropLast_prefix s
  · exact List.prefix_rfl

/-- Each line of a text stands in it. -/
theorem infix_of_mem_lines {s line : Text} (h : line ∈ Text.lines s) : line <:+: s := by
  obtain ⟨piece, hpiece, rfl⟩ := List.mem_map.mp h
  exact (dropFinal_isPrefix _ _).isInfix.trans (infix_of_mem_splitOn hpiece)

/-- A line of a text holds no line feed. -/
theorem not_mem_of_mem_lines {s line : Text} (h : line ∈ Text.lines s) : '\n' ∉ line := by
  obtain ⟨piece, hpiece, rfl⟩ := List.mem_map.mp h
  have hmem := not_mem_of_mem_splitOn hpiece
  rw [Text.dropFinal]
  split
  · exact fun hfeed => hmem (List.dropLast_subset _ hfeed)
  · exact hmem

/-- Reading lines back takes one carriage return off each of them at most. -/
theorem lines_unlines {lines : List Text} (hne : lines ≠ []) (h : ∀ line ∈ lines, '\n' ∉ line) :
    Text.lines (Text.unlines lines) = lines.map (Text.dropFinal '\r') := by
  rw [Text.lines, Text.unlines, List.splitOn_intercalate '\n' h hne]

/-- The lines of a text are those in front of a line feed and those behind it. -/
theorem lines_append_feed (s t : Text) :
    Text.lines (s ++ '\n' :: t) = Text.lines s ++ Text.lines t := by
  rw [Text.lines, List.splitOn_append_cons_self, List.map_append]
  rfl

/-- The lines of some joined texts are the lines of each, one after another. -/
theorem lines_unlines_eq_flatMap {texts : List Text} (hne : texts ≠ []) :
    Text.lines (Text.unlines texts) = texts.flatMap Text.lines := by
  induction texts with
  | nil => exact absurd rfl hne
  | cons text rest ih =>
    cases rest with
    | nil => rw [unlines_singleton, List.flatMap_singleton]
    | cons next rest =>
      rw [unlines_cons_cons, lines_append_feed, ih (List.cons_ne_nil _ _)]
      exact List.flatMap_cons.symm

theorem lines_eq_singleton {s : Text} (h : '\n' ∉ s) :
    Text.lines s = [Text.dropFinal '\r' s] := by
  rw [Text.lines, List.splitOn_eq_singleton h]
  rfl

theorem lines_ne_nil (s : Text) : Text.lines s ≠ [] :=
  List.map_eq_nil_iff.not.mpr (List.splitOn_ne_nil '\n' s)

theorem unlines_append {lines others : List Text} (hlines : lines ≠ []) (hothers : others ≠ []) :
    Text.unlines (lines ++ others) = Text.unlines lines ++ '\n' :: Text.unlines others := by
  obtain ⟨other, others, rfl⟩ := List.exists_cons_of_ne_nil hothers
  induction lines with
  | nil => exact absurd rfl hlines
  | cons line lines ih =>
    cases lines with
    | nil => rw [unlines_singleton, List.singleton_append, unlines_cons_cons]
    | cons next lines =>
      rw [List.cons_append, List.cons_append, unlines_cons_cons, unlines_cons_cons,
        ← List.cons_append, ih (List.cons_ne_nil _ _), List.append_assoc, List.cons_append]

/-- A text is one line, or a line in front of a text. -/
@[elab_as_elim]
theorem line_induction {motive : Text → Prop} (last : ∀ s, '\n' ∉ s → motive s)
    (line : ∀ line rest, '\n' ∉ line → motive rest → motive (line ++ '\n' :: rest)) (s : Text) :
    motive s := by
  -- what has been read of the first line stands in front of the rest
  suffices h : ∀ front, '\n' ∉ front → motive (front ++ s) from h [] List.not_mem_nil
  induction s with
  | nil =>
    intro front hfront
    rw [List.append_nil]
    exact last front hfront
  | cons c s ih =>
    intro front hfront
    by_cases hc : c = '\n'
    · subst hc
      exact line front s hfront (ih [] List.not_mem_nil)
    · rw [← List.singleton_append, ← List.append_assoc]
      apply ih
      exact List.not_mem_append hfront (List.not_mem_cons_of_ne_of_not_mem (Ne.symm hc)
        List.not_mem_nil)

/-- What stands behind the last line feed of a text, or all of it if there is none. -/
def lastLine (s : Text) : Text := (s.reverse.takeWhile (· != '\n')).reverse

theorem not_mem_lastLine (s : Text) : '\n' ∉ lastLine s := by
  intro h
  have hfeed := List.mem_takeWhile_imp (List.mem_reverse.mp h)
  exact absurd hfeed (by decide)

/-- A text is its last line, or that line behind a line feed. -/
theorem eq_lastLine_or_append (s : Text) :
    s = lastLine s ∨ ∃ front, s = front ++ '\n' :: lastLine s := by
  have hsplit := List.takeWhile_append_dropWhile (p := (· != '\n')) (l := s.reverse)
  cases hrest : s.reverse.dropWhile (· != '\n') with
  | nil =>
    rw [hrest, List.append_nil] at hsplit
    exact .inl (by rw [lastLine, hsplit, List.reverse_reverse])
  | cons c rest =>
    have hc : c = '\n' := by
      have hstop := List.head?_dropWhile_not (· != '\n') s.reverse
      rw [hrest] at hstop
      simpa using hstop
    refine .inr ⟨rest.reverse, ?_⟩
    rw [hrest, hc] at hsplit
    conv_lhs => rw [← List.reverse_reverse s, ← hsplit]
    rw [List.reverse_append, List.reverse_cons, List.append_assoc]
    rfl

/-! ### Trimming -/

theorem isBlank_of_mem_space : ∀ c ∈ [' '], isBlank c = true := by decide

/-- White space in front of a text does not show when it is trimmed. -/
theorem trim_blanks_append {margin : Text} (h : ∀ c ∈ margin, isBlank c) (s : Text) :
    Text.trim (margin ++ s) = Text.trim s := by
  rw [Text.trim, Text.trim, Text.trimStart, Text.trimStart, List.dropWhile_append_of_pos h]

/-- White space behind a text does not show when its end is trimmed. -/
theorem trimEnd_append_blanks {margin : Text} (h : ∀ c ∈ margin, isBlank c) (s : Text) :
    Text.trimEnd (s ++ margin) = Text.trimEnd s := by
  rw [Text.trimEnd, Text.trimEnd, List.reverse_append, List.dropWhile_append_of_pos]
  exact fun c hc => h c (List.mem_reverse.mp hc)

/-- White space behind a text does not show when it is trimmed. -/
theorem trim_append_blanks {margin : Text} (h : ∀ c ∈ margin, isBlank c) (s : Text) :
    Text.trim (s ++ margin) = Text.trim s := by
  rw [Text.trim, Text.trim, Text.trimStart, Text.trimStart, List.dropWhile_append]
  by_cases hs : (s.dropWhile isBlank).isEmpty
  · -- the text is blank, and so is all of it with its margin
    have hmargin : margin.dropWhile isBlank = [] := List.dropWhile_eq_nil_iff.mpr h
    rw [if_pos hs, hmargin, List.isEmpty_iff.mp hs]
  · rw [if_neg hs]
    exact trimEnd_append_blanks h _

/-- What a line loses with its carriage return is white space. -/
theorem exists_dropFinal_append (line : Text) :
    ∃ margin, (∀ c ∈ margin, isBlank c) ∧ Text.dropFinal '\r' line ++ margin = line := by
  rw [Text.dropFinal]
  split
  · case isTrue hlast =>
    obtain ⟨front, rfl⟩ := List.getLast?_eq_some_iff.mp hlast
    exact ⟨['\r'], List.forall_mem_singleton.mpr (by decide), by rw [List.dropLast_concat]⟩
  · exact ⟨[], List.forall_mem_nil _, List.append_nil line⟩

/-- A carriage return at the end of a line does not show when the line is trimmed. -/
theorem trim_dropFinal (line : Text) : Text.trim (Text.dropFinal '\r' line) = Text.trim line := by
  obtain ⟨margin, hmargin, hline⟩ := exists_dropFinal_append line
  conv_rhs => rw [← hline, trim_append_blanks hmargin]

/-- A carriage return at the end of a line does not show when the end of the line is trimmed. -/
theorem trimEnd_dropFinal (line : Text) :
    Text.trimEnd (Text.dropFinal '\r' line) = Text.trimEnd line := by
  obtain ⟨margin, hmargin, hline⟩ := exists_dropFinal_append line
  conv_rhs => rw [← hline, trimEnd_append_blanks hmargin]

/-- Trimming the end of a text stops at its first character if that is not blank. -/
theorem trimEnd_cons {c : Char} (hc : isBlank c = false) (s : Text) :
    Text.trimEnd (c :: s) = c :: Text.trimEnd s := by
  rw [Text.trimEnd, Text.trimEnd, List.reverse_cons, List.dropWhile_append]
  split
  · case isTrue hblank =>
    rw [List.isEmpty_iff.mp hblank, List.dropWhile_cons_of_neg (by simp [hc])]
    rfl
  · rw [List.reverse_append]
    rfl

/-- Trimming the end of a text stops at a word that holds no white space. -/
theorem trimEnd_append_of_not_isBlank {word : Text} (h : ∀ c ∈ word, isBlank c = false) (s : Text) :
    Text.trimEnd (word ++ s) = word ++ Text.trimEnd s := by
  induction word with
  | nil => rfl
  | cons c word ih =>
    rw [List.forall_mem_cons] at h
    rw [List.cons_append, trimEnd_cons h.1, ih h.2, List.cons_append]

theorem trim_cons {c : Char} (hc : isBlank c = false) (s : Text) :
    Text.trim (c :: s) = c :: Text.trimEnd s := by
  rw [Text.trim, Text.trimStart, List.dropWhile_cons_of_neg (by simp [hc]), trimEnd_cons hc]

/-- Trimming the end of a text leaves what the text begins with. -/
theorem trimEnd_isPrefix (s : Text) : Text.trimEnd s <+: s := by
  rw [Text.trimEnd, ← List.reverse_suffix, List.reverse_reverse]
  exact List.dropWhile_suffix _

/-- Trimming a text leaves a piece of it. -/
theorem trim_isInfix (s : Text) : Text.trim s <:+: s :=
  (trimEnd_isPrefix _).isInfix.trans (List.dropWhile_suffix _).isInfix

/-- Trimming takes characters away and adds none. -/
theorem trimEnd_subset (s : Text) : Text.trimEnd s ⊆ s := (trimEnd_isPrefix s).subset

theorem trim_subset (s : Text) : Text.trim s ⊆ s := (trim_isInfix s).subset

/-- The end of a text is its own trim if it is not white space. -/
theorem trimEnd_eq_self {s : Text} (hlast : ∀ c, s.getLast? = some c → isBlank c = false) :
    Text.trimEnd s = s := by
  rw [Text.trimEnd]
  cases hreverse : s.reverse with
  | nil => rw [List.reverse_eq_nil_iff.mp hreverse]; rfl
  | cons c rest =>
    have hc : s.getLast? = some c := by rw [← List.head?_reverse, hreverse]; rfl
    rw [List.dropWhile_cons_of_neg (by simp [hlast c hc]), ← hreverse, List.reverse_reverse]

/-- White space in front of a text is dropped up to its first other character. -/
theorem trimStart_blanks_append {gap rest : Text} (hgap : ∀ c ∈ gap, isBlank c)
    (hrest : ∀ c, rest.head? = some c → isBlank c = false) :
    Text.trimStart (gap ++ rest) = rest := by
  rw [Text.trimStart, List.dropWhile_append_of_pos hgap]
  cases rest with
  | nil => rfl
  | cons c rest => exact List.dropWhile_cons_of_neg (by simp [hrest c rfl])

/-- White space in front of another character is dropped. -/
theorem trimStart_blanks_cons {gap : Text} (hgap : ∀ c ∈ gap, isBlank c) {c : Char}
    (hc : isBlank c = false) (rest : Text) : Text.trimStart (gap ++ c :: rest) = c :: rest := by
  refine trimStart_blanks_append hgap ?_
  rintro d ⟨rfl⟩
  exact hc

/-- A text is the white space it begins with and what is left when that is dropped. -/
theorem exists_blanks_append_trimStart (s : Text) :
    ∃ gap, (∀ c ∈ gap, isBlank c) ∧ s = gap ++ Text.trimStart s :=
  ⟨s.takeWhile isBlank, fun _ hc => List.mem_takeWhile_imp hc,
    List.takeWhile_append_dropWhile.symm⟩

/-- A text is its trim with white space on both sides. -/
theorem exists_blanks_append_trim (s : Text) :
    ∃ left right, (∀ c ∈ left, isBlank c) ∧ (∀ c ∈ right, isBlank c) ∧
      s = left ++ Text.trim s ++ right := by
  obtain ⟨left, hleft, hstart⟩ := exists_blanks_append_trimStart s
  obtain ⟨gap, hgap, hend⟩ := exists_blanks_append_trimStart (Text.trimStart s).reverse
  refine ⟨left, gap.reverse, hleft, fun c hc => hgap c (List.mem_reverse.mp hc), ?_⟩
  have hreverse : Text.trimStart s = Text.trim s ++ gap.reverse := by
    rw [← List.reverse_inj, hend, List.reverse_append, List.reverse_reverse, Text.trim,
      Text.trimEnd, List.reverse_reverse]
    rfl
  rw [List.append_assoc, ← hreverse]
  exact hstart

theorem isBlank_of_head?_trimStart {s : Text} {c : Char} (h : (Text.trimStart s).head? = some c) :
    isBlank c = false := by
  have hstop := List.head?_dropWhile_not isBlank s
  rw [Text.trimStart] at h
  rwa [h] at hstop

theorem isBlank_of_getLast?_trimEnd {s : Text} {c : Char} (h : (Text.trimEnd s).getLast? = some c) :
    isBlank c = false := by
  have hstop := List.head?_dropWhile_not isBlank s.reverse
  rw [Text.trimEnd, List.getLast?_reverse] at h
  rwa [h] at hstop

/-- What stands behind the first character of a text that is no white space is kept. -/
theorem trimStart_append (s : Text) {rest : Text}
    (hrest : ∀ c, rest.head? = some c → isBlank c = false) :
    Text.trimStart (s ++ rest) = Text.trimStart s ++ rest := by
  rw [Text.trimStart, List.dropWhile_append]
  split
  · case isTrue hblank =>
    rw [Text.trimStart, List.isEmpty_iff.mp hblank]
    exact trimStart_blanks_append (List.forall_mem_nil _) hrest
  · rfl

/-- The first character behind the white space that two texts begin with together. -/
theorem head?_trimStart_append {s rest : Text} {c : Char}
    (h : (Text.trimStart (s ++ rest)).head? = some c) :
    c ∈ s ∨ (Text.trimStart rest).head? = some c := by
  rw [Text.trimStart, List.dropWhile_append] at h
  split at h
  · exact .inr h
  · case isFalse hne =>
    left
    rw [List.isEmpty_iff] at hne
    rw [List.head?_append, Option.or_of_isSome (List.isSome_head?.mpr hne)] at h
    exact (List.dropWhile_suffix _).subset (List.mem_of_head? h)

/-- A trimmed text begins with the first character that is no white space. -/
theorem head?_trim (s : Text) : (Text.trim s).head? = (Text.trimStart s).head? := by
  rw [Text.trim]
  cases hstart : Text.trimStart s with
  | nil => rfl
  | cons c rest => rw [trimEnd_cons (isBlank_of_head?_trimStart (by rw [hstart]; rfl))]; rfl

/-- A text with no white space at either end is its own trim. -/
theorem trim_eq_self {s : Text} (hfirst : ∀ c, s.head? = some c → isBlank c = false)
    (hlast : ∀ c, s.getLast? = some c → isBlank c = false) : Text.trim s = s := by
  have hstart : Text.trimStart s = s := trimStart_blanks_append (List.forall_mem_nil _) hfirst
  rw [Text.trim, hstart, trimEnd_eq_self hlast]

/-- A trimmed text is its own trim. -/
theorem trim_trim (s : Text) : Text.trim (Text.trim s) = Text.trim s := by
  refine trim_eq_self (fun c hc => ?_) fun c hc => isBlank_of_getLast?_trimEnd hc
  rw [head?_trim] at hc
  exact isBlank_of_head?_trimStart hc

/-- Trimming stops at a part of a text that has no white space at either end. -/
theorem trim_append_append {front core margin : Text} (hne : core ≠ [])
    (hfirst : ∀ c, core.head? = some c → isBlank c = false)
    (hlast : ∀ c, core.getLast? = some c → isBlank c = false) (hmargin : ∀ c ∈ margin, isBlank c) :
    Text.trim (front ++ core ++ margin) = Text.trimStart front ++ core := by
  rw [trim_append_blanks hmargin, Text.trim, trimStart_append front hfirst]
  apply trimEnd_eq_self
  intro c hc
  rw [List.getLast?_append_of_ne_nil _ hne] at hc
  exact hlast c hc

/-! ### Occurrences -/

/-- A text up to the first place of a character. -/
theorem takeWhile_ne_append {c : Char} {s : Text} (h : c ∉ s) (t : Text) :
    (s ++ c :: t).takeWhile (· != c) = s ∧ (s ++ c :: t).dropWhile (· != c) = c :: t := by
  have hs : ∀ d ∈ s, (d != c) = true := fun d hd => bne_iff_ne.mpr fun heq => h (heq ▸ hd)
  rw [List.takeWhile_append_of_pos hs, List.dropWhile_append_of_pos hs,
    List.takeWhile_cons_of_neg (p := (· != c)) (by simp),
    List.dropWhile_cons_of_neg (p := (· != c)) (by simp), List.append_nil]
  exact ⟨rfl, rfl⟩

/-- A search passes over what stands in front of a text if its test answers nowhere there. -/
theorem search_append_of_none {α : Type} {test : Text → Option α} {front s : Text}
    (h : ∀ before after, front = before ++ after → after ≠ [] → test (after ++ s) = none) :
    (search test (front ++ s)).map Prod.snd = (search test s).map Prod.snd := by
  induction front with
  | nil => rfl
  | cons c front ih =>
    have hhere : test (c :: (front ++ s)) = none := h [] (c :: front) rfl (List.cons_ne_nil _ _)
    rw [List.cons_append, search, hhere]
    dsimp only
    rw [Option.map_map, ← ih fun before after hsplit =>
      h (c :: before) after (by rw [hsplit, List.cons_append])]
    rfl

/-- The search for a fixed text finds it wherever it stands. -/
theorem occursIn_iff {needle s : Text} : Text.occursIn needle s = true ↔ needle <:+: s := by
  rw [Text.occursIn, ← Bool.not_eq_false, Option.isSome_eq_false_iff, Option.isNone_iff_eq_none,
    Text.cutAt?, search_eq_none_iff]
  constructor
  · intro h
    by_contra hno
    refine h fun before rest hs => if_neg fun hprefix => hno ?_
    obtain ⟨after, rfl⟩ := List.isPrefixOf_iff_prefix.mp hprefix
    exact ⟨before, after, by rw [hs, List.append_assoc]⟩
  · rintro ⟨before, after, hs⟩ h
    have hprefix : needle.isPrefixOf (needle ++ after) = true :=
      List.isPrefixOf_iff_prefix.mpr (List.prefix_append needle after)
    have := h before (needle ++ after) (by rw [← hs, List.append_assoc])
    rw [if_pos hprefix] at this
    cases this

/-- A text is cut in front of the first place of the needle. -/
theorem cutAt?_eq_some_iff {needle s before rest : Text} :
    Text.cutAt? needle s = some (before, rest) ↔
      s = before ++ rest ∧ needle <+: rest ∧
        ∀ shorter longer, s = shorter ++ longer → shorter.length < before.length →
          ¬ needle <+: longer := by
  have htest : ∀ longer : Text, ∀ answer,
      (if needle.isPrefixOf longer then some longer else none) = some answer ↔
        longer = answer ∧ needle <+: longer := by
    intro longer answer
    rw [Option.ite_none_right_eq_some, List.isPrefixOf_iff_prefix, Option.some_inj, and_comm]
  have hno : ∀ longer : Text,
      (if needle.isPrefixOf longer then some longer else none) = none ↔ ¬ needle <+: longer := by
    intro longer
    rw [ite_eq_right_iff, ← List.isPrefixOf_iff_prefix]
    simp
  rw [Text.cutAt?, search_eq_some_iff]
  simp only [htest, hno]
  constructor
  · rintro ⟨_, hs, ⟨rfl, hneedle⟩, hfirst⟩
    exact ⟨hs, hneedle, hfirst⟩
  · rintro ⟨hs, hneedle, hfirst⟩
    exact ⟨rest, hs, ⟨rfl, hneedle⟩, hfirst⟩

/-- A text without the needle is not cut. -/
theorem upTo_eq_self {needle s : Text} (h : ¬ needle <:+: s) : Text.upTo needle s = s := by
  rw [← occursIn_iff, Text.occursIn, Option.not_isSome_iff_eq_none] at h
  rw [Text.upTo, h]

/-- A word at the front of a text ends in front of any character that it does not hold. -/
theorem prefix_of_prefix_append_cons {word s rest : Text} {c : Char}
    (h : word <+: s ++ c :: rest) (hc : c ∉ word) : word <+: s := by
  obtain ⟨tail, htail⟩ := h
  rcases List.append_eq_append_iff.mp htail with ⟨more, hs, _⟩ | ⟨more, hword, hmore⟩
  · exact ⟨more, hs.symm⟩
  · cases more with
    | nil =>
      rw [List.append_nil] at hword
      exact hword ▸ List.prefix_rfl
    | cons d more =>
      obtain ⟨rfl, _⟩ := List.cons.inj hmore
      exact absurd (hword ▸ List.mem_append_right s List.mem_cons_self) hc

/-- A word in a text stands in front of any character that it does not hold, or behind it. -/
theorem infix_of_infix_append_cons {word s rest : Text} {c : Char}
    (h : word <:+: s ++ c :: rest) (hc : c ∉ word) : word <:+: s ∨ word <:+: rest := by
  obtain ⟨before, after, h⟩ := h
  rw [List.append_assoc] at h
  rcases List.append_eq_append_iff.mp h with ⟨more, hs, hword⟩ | ⟨more, _, hrest⟩
  · have hprefix := prefix_of_prefix_append_cons ⟨after, hword⟩ hc
    exact .inl (hs ▸ hprefix.isInfix.trans (List.suffix_append before more).isInfix)
  · cases more with
    | nil =>
      cases word with
      | nil => exact .inl ⟨[], s, rfl⟩
      | cons d word =>
        obtain ⟨rfl, _⟩ := List.cons.inj hrest
        exact absurd List.mem_cons_self hc
    | cons d more =>
      obtain ⟨_, rfl⟩ := List.cons.inj hrest
      exact .inr ⟨more, after, List.append_assoc ..⟩

/-! ### The lines of inclusions -/

theorem isBlank_of_head?_includeLine (file : Text) :
    ∀ c, (includeLine file).head? = some c → isBlank c = false := by
  rintro c ⟨⟩
  decide

theorem isBlank_of_getLast?_includeLine (file : Text) :
    ∀ c, (includeLine file).getLast? = some c → isBlank c = false := by
  intro c hc
  have hlast : (includeLine file).getLast? = some '"' := List.getLast?_concat
  cases hlast.symm.trans hc
  decide

/-- The line of an inclusion has no outer white space. -/
theorem trim_includeLine (file : Text) : Text.trim (includeLine file) = includeLine file :=
  trim_eq_self (isBlank_of_head?_includeLine file) (isBlank_of_getLast?_includeLine file)

theorem not_mem_includeLine {file : Text} (h : '\n' ∉ file) : '\n' ∉ includeLine file :=
  List.not_mem_append (List.not_mem_append (by decide) h) (by decide)

end StateOverlay
