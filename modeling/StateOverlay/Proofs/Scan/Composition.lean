/-
Scanning is compositional.

The scan carries nothing from one line to the next but the number of the line, and it leaves out the
repetitions among the identifiers at the end.  So the scan of two texts with a line feed between
them is put together from the scans of the two:

* `eraseDups_append_eq` — of some names and more names, the first occurrences are those of the first
  part and the new ones of the second;
* `bodyLines_append_feed`, `codeLines_append_feed` — the lines of the second text keep their order
  and go on with the numbers of the first;
* `preambleLines_append_feed` — the preamble ends in the first text, if that has a body;
* `alreadyTransformed_append_feed` — a text is rewritten if all its parts are, or are quiet;
* `scan_append_feed` — the whole scan.
-/
import StateOverlay.Proofs.Scan.Recognition

namespace StateOverlay

/-! ### First occurrences -/

/-- Leaving out repetitions and picking some of the names can change places. -/
theorem eraseDups_filter (p : Text → Bool) (names : List Text) :
    (names.filter p).eraseDups = names.eraseDups.filter p := by
  -- the recursion drops all further occurrences of the first name, so it goes by length
  induction hlength : names.length using Nat.strong_induction_on generalizing names with
  | _ n ih =>
    cases names with
    | nil => rfl
    | cons name rest =>
      have hshorter : (rest.filter fun other => !other == name).length < n := by
        rw [← hlength, List.length_cons]
        exact Nat.lt_succ_of_le (List.length_filter_le _ rest)
      have hrest := ih _ hshorter _ rfl
      rw [List.eraseDups_cons]
      by_cases hname : p name = true
      · rw [List.filter_cons_of_pos hname, List.filter_cons_of_pos hname, List.eraseDups_cons,
          ← hrest, List.filter_filter, List.filter_filter]
        simp only [Bool.and_comm]
      · rw [List.filter_cons_of_neg hname, List.filter_cons_of_neg hname, ← hrest,
          List.filter_filter]
        -- the name that is dropped is not picked anyway
        have hdropped : ∀ other, p other = true → (!other == name) = true := by
          intro other hother
          rw [Bool.not_eq_true', beq_eq_false_iff_ne]
          rintro rfl
          exact hname hother
        have hsame : ∀ other, (p other && !other == name) = p other := by
          intro other
          cases hother : p other with
          | true => rw [hdropped other hother]; rfl
          | false => rfl
        simp only [hsame]

/-- The first name of some stands first among the first occurrences. -/
theorem eraseDups_cons_eq (name : Text) (rest : List Text) :
    (name :: rest).eraseDups = name :: rest.eraseDups.filter (· ≠ name) := by
  have hpick : rest.filter (fun other => !other == name) = rest.filter (· ≠ name) :=
    List.filter_congr fun other _ => by simp [beq_eq_decide]
  rw [List.eraseDups_cons, hpick, eraseDups_filter]

/-- No name is left twice. -/
theorem nodup_eraseDups (names : List Text) : names.eraseDups.Nodup := by
  induction names with
  | nil => exact List.nodup_nil
  | cons name rest ih =>
    rw [eraseDups_cons_eq, List.nodup_cons]
    exact ⟨by simp, ih.filter _⟩

/-- The order of some names does not matter to which of them are left. -/
theorem eraseDups_perm {names others : List Text} (h : names.Perm others) :
    names.eraseDups.Perm others.eraseDups := by
  rw [List.perm_ext_iff_of_nodup (nodup_eraseDups names) (nodup_eraseDups others)]
  intro name
  rw [List.mem_eraseDups, List.mem_eraseDups, h.mem_iff]

/-- The first occurrences among some names and more names. -/
theorem eraseDups_append_eq (names more : List Text) :
    (names ++ more).eraseDups
      = names.eraseDups ++ more.eraseDups.filter (· ∉ names.eraseDups) := by
  have hnew : more.removeAll names = more.filter (· ∉ names.eraseDups) := by
    refine List.filter_congr fun name _ => ?_
    simp
  rw [List.eraseDups_append, hnew, eraseDups_filter]

/-! ### Numbered lines -/

/-- A line of code below some other lines. -/
def CodeLine.below (height : Nat) (code : CodeLine) : CodeLine :=
  { code with number := code.number + height }

/-- An entry of a skipped line below some other lines. -/
def SkippedLine.below (height : Nat) (skipped : SkippedLine) : SkippedLine :=
  { skipped with lineNumber := skipped.lineNumber + height }

theorem CodeLine.skipped?_below (height : Nat) (code : CodeLine) :
    (code.below height).skipped? = code.skipped?.map (SkippedLine.below height) := by
  obtain ⟨number, line, lineClass⟩ := code
  cases lineClass with
  | declaration name record => rfl
  | skipped reason => rfl

/-- Numbers that begin later are larger by the difference. -/
theorem zipIdx_add (lines : List Text) (start height : Nat) :
    lines.zipIdx (start + height)
      = (lines.zipIdx start).map fun (line, number) => (line, number + height) := by
  induction lines generalizing start with
  | nil => rfl
  | cons line lines ih =>
    rw [List.zipIdx_cons, List.zipIdx_cons, List.map_cons, Nat.add_right_comm, ih]

/-- The lines behind a line feed go on with the numbers of those in front of it. -/
theorem bodyLines_append_feed (s t : Text) :
    bodyLines (s ++ '\n' :: t)
      = bodyLines s ++ (bodyLines t).map fun (line, number) =>
          (line, number + (Text.lines s).length) := by
  rw [bodyLines_eq, bodyLines_eq, bodyLines_eq, lines_append_feed, List.zipIdx_append,
    List.filter_append, zipIdx_add, List.filter_map]
  rfl

/-- The lines of code of a text are those in front of a line feed and those behind it. -/
theorem codeLines_append_feed (config : Config) (s t : Text) :
    codeLines config (s ++ '\n' :: t)
      = codeLines config s ++ (codeLines config t).map (CodeLine.below (Text.lines s).length) := by
  rw [codeLines, codeLines, codeLines, bodyLines_append_feed, List.filter_append, List.map_append,
    List.filter_map, List.map_map, List.map_map]
  rfl

/-! ### The parts of a scan -/

/-- A text has no live lines if all its lines are blank or comments. -/
theorem liveLines_eq_nil_iff {source : Text} :
    liveLines source = [] ↔ ∀ line ∈ Text.lines source, IsQuietLine line := by
  rw [liveLines, List.map_eq_nil_iff, List.filter_eq_nil_iff]
  refine forall₂_congr fun line hline => ?_
  rw [Bool.not_eq_true, Bool.not_eq_false', ← Bool.not_eq_false,
    isQuiet_eq_false_iff (not_mem_of_mem_lines hline), not_not]

section Parts

variable {config : Config} {s : Text} (hbody : ∃ line ∈ Text.lines s, ¬ IsQuietLine line)

include hbody

/-- The preamble ends in front of a line feed that some body stands in front of. -/
theorem preambleLines_append_feed (t : Text) :
    preambleLines (s ++ '\n' :: t) = preambleLines s := by
  obtain ⟨line, hline, hloud⟩ := hbody
  have hshort : ((Text.lines s).takeWhile isQuiet).length ≠ (Text.lines s).length := by
    intro hlength
    have hall := (List.takeWhile_prefix isQuiet).eq_of_length hlength
    have hfeed := not_mem_of_mem_lines hline
    rw [← hall] at hline
    exact hloud (isQuietLine_of_isQuiet hfeed (List.mem_takeWhile_imp hline))
  rw [preambleLines, preambleLines, lines_append_feed, List.takeWhile_append, if_neg hshort]

/-- A text with a body is rewritten if and only if the text in front of a line feed is and nothing
else comes behind it. -/
theorem alreadyTransformed_append_feed (t : Text) :
    (Scan.ofSource config (s ++ '\n' :: t)).alreadyTransformed = true ↔
      (Scan.ofSource config s).alreadyTransformed = true ∧
        ((Scan.ofSource config t).alreadyTransformed = true ∨
          ∀ line ∈ Text.lines t, IsQuietLine line) := by
  obtain ⟨line, hline, hloud⟩ := hbody
  have hlive : liveLines s ≠ [] := fun hnil => hloud (liveLines_eq_nil_iff.mp hnil line hline)
  rw [alreadyTransformed_iff, alreadyTransformed_iff, alreadyTransformed_iff, liveLines_append_feed,
    List.forall_mem_append, ← liveLines_eq_nil_iff]
  constructor
  · rintro ⟨-, hs, ht⟩
    by_cases hnil : liveLines t = []
    · exact ⟨⟨hlive, hs⟩, .inr hnil⟩
    · exact ⟨⟨hlive, hs⟩, .inl ⟨hnil, ht⟩⟩
  · rintro ⟨⟨_, hs⟩, ht⟩
    refine ⟨fun hnil => hlive (List.append_eq_nil_iff.mp hnil).1, hs, ?_⟩
    rcases ht with ⟨_, ht⟩ | hnil
    · exact ht
    · rw [hnil]
      exact List.forall_mem_nil _

end Parts

/-- **Scanning is compositional**: the scan of two texts with a line feed between them is put
together from their scans, if the first has a line that is neither blank nor a comment. -/
theorem scan_append_feed (config : Config) (first second : Text)
    (hbody : ∃ line ∈ Text.lines first, ¬ IsQuietLine line) :
    let front := Scan.ofSource config first
    let back := Scan.ofSource config second
    let whole := Scan.ofSource config (first ++ '\n' :: second)
    whole.preamble = front.preamble ∧
    whole.identifiers
      = front.identifiers ++ back.identifiers.filter (· ∉ front.identifiers) ∧
    whole.records = front.records ++ back.records ∧
    whole.skipped = front.skipped ++ back.skipped.map (fun skipped =>
      { skipped with lineNumber := skipped.lineNumber + (Text.lines first).length }) ∧
    (whole.alreadyTransformed = true ↔
      front.alreadyTransformed = true ∧
        (back.alreadyTransformed = true ∨ ∀ line ∈ Text.lines second, IsQuietLine line)) := by
  intro front back whole
  have hcode := codeLines_append_feed config first second
  refine ⟨preambleLines_append_feed hbody second, ?_, ?_, ?_,
    alreadyTransformed_append_feed hbody second⟩
  · show ((codeLines config (first ++ '\n' :: second)).filterMap CodeLine.name?).eraseDups = _
    rw [hcode, List.filterMap_append, List.filterMap_map, eraseDups_append_eq]
    rfl
  · show (codeLines config (first ++ '\n' :: second)).filterMap CodeLine.record? = _
    rw [hcode, List.filterMap_append, List.filterMap_map]
    rfl
  · show (codeLines config (first ++ '\n' :: second)).filterMap CodeLine.skipped? = _
    have hbelow : CodeLine.skipped? ∘ CodeLine.below (Text.lines first).length
        = fun code => code.skipped?.map (SkippedLine.below (Text.lines first).length) :=
      funext fun code => code.skipped?_below _
    rw [hcode, List.filterMap_append, List.filterMap_map, hbelow, ← List.map_filterMap]
    rfl

/-- A text that ends in a carriage return and a text that begins with comments and declares a name
again. -/
theorem scan_append_feed_again :
    let first := "/* a */\nstatic int x;\nint f (\r".toList
    let second := "/* b */\nlong x;\nint y = 1;\nint g (".toList
    let whole := Scan.ofSource {} (first ++ '\n' :: second)
    (∃ line ∈ Text.lines first, ¬ IsQuietLine line) ∧
      whole.preamble = ["/* a */".toList] ∧ whole.identifiers = [['x'], ['y']] ∧
      whole.skipped = [⟨3, "int f (".toList, .unterminated⟩, ⟨7, "int g (".toList, .unterminated⟩] ∧
      whole.alreadyTransformed = false := by
  intro first second whole
  have hbody : ∃ line ∈ Text.lines first, ¬ IsQuietLine line :=
    ⟨"static int x;".toList, by decide +kernel, by decide +kernel⟩
  obtain ⟨hpreamble, hidentifiers, _, hskipped, htransformed⟩ :=
    scan_append_feed {} first second hbody
  refine ⟨hbody, hpreamble.trans (by decide +kernel), hidentifiers.trans (by decide +kernel),
    hskipped.trans (by decide +kernel), ?_⟩
  rw [← Bool.not_eq_true]
  intro hwhole
  have hfront := (htransformed.mp hwhole).1
  exact absurd hfront (by decide +kernel)

end StateOverlay
