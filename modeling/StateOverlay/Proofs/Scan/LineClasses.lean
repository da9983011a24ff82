/-
What a scan looks at.

A scan asks two questions of each line: whether it is code, and of which class.  The answers depend
on the line alone, and of the line only on what stands between its outer white space and its first
comment.  What a scan finds, the numbers and the texts of its reports aside, are these classes in
their order:

* `lineClass?`, `lineClasses` — the class of a line if it is code, and those of a text;
* `identifiers_eq`, `records_eq`, `reasons_eq` — what a scan finds, by classes;
* `ignoresLayout_lineClass?`, `lineClass?_append_comment` — white space around a line and a comment
  behind it do not matter to its class;
* `lineClasses_of_silentEdits` — changes of layout and comments keep the classes;
* `lineClasses_perm` — lines in another order have their classes in that order.
-/
import StateOverlay.Proofs.Declaration.Comments
import StateOverlay.Proofs.Scan.Composition

namespace StateOverlay

/-! ### Classes -/

namespace LineClass

/-- The identifier that a line of some class declares. -/
def name? : LineClass → Option Text
  | .declaration name _ => some name
  | .skipped _ => none

/-- The record initializer that a line of some class declares. -/
def record? : LineClass → Option Record
  | .declaration _ record => record
  | .skipped _ => none

/-- The reason why a line of some class is left out. -/
def reason? : LineClass → Option SkipReason
  | .declaration _ _ => none
  | .skipped reason => some reason

end LineClass

/-- The class of a line if it is code. -/
def lineClass? (config : Config) (line : Text) : Option LineClass :=
  if isQuiet line || isDirective line then none else some (classify config line)

/-- The classes of the lines of code of a text, in their order. -/
def lineClasses (config : Config) (source : Text) : List LineClass :=
  seenLines (lineClass? config) source

/-- The classes that a scan gives to the lines of code. -/
theorem map_lineClass_codeLines (config : Config) (source : Text) :
    (codeLines config source).map CodeLine.lineClass = lineClasses config source := by
  rw [codeLines, bodyLines_eq, lineClasses, seenLines]
  generalize Text.lines source = lines
  -- the numbers make no difference, so the lines may begin with any
  generalize 1 = start
  induction lines generalizing start with
  | nil => rfl
  | cons line lines ih =>
    rw [List.filterMap_cons, List.zipIdx_cons, ← ih (start + 1)]
    cases hquiet : isQuiet line with
    | true => simp [lineClass?, hquiet]
    | false =>
      cases hdirective : isDirective line with
      | true => simp [lineClass?, hquiet, hdirective]
      | false => simp [lineClass?, hquiet, hdirective]

section Found

variable (config : Config) (source : Text)

/-- The identifiers of a scan, by classes. -/
theorem identifiers_eq :
    (Scan.ofSource config source).identifiers
      = ((lineClasses config source).filterMap LineClass.name?).eraseDups := by
  rw [← map_lineClass_codeLines, List.filterMap_map]
  rfl

/-- The records of a scan, by classes. -/
theorem records_eq :
    (Scan.ofSource config source).records
      = (lineClasses config source).filterMap LineClass.record? := by
  rw [← map_lineClass_codeLines, List.filterMap_map]
  rfl

/-- The reasons why lines are skipped, by classes. -/
theorem reasons_eq :
    (Scan.ofSource config source).skipped.map SkippedLine.reason
      = (lineClasses config source).filterMap LineClass.reason? := by
  have hreason : ∀ code : CodeLine,
      code.skipped?.map SkippedLine.reason = code.lineClass.reason? := by
    intro code
    rw [CodeLine.skipped?]
    cases code.lineClass with
    | declaration name record => rfl
    | skipped reason => rfl
  rw [← map_lineClass_codeLines, List.filterMap_map]
  show ((codeLines config source).filterMap CodeLine.skipped?).map SkippedLine.reason = _
  rw [List.map_filterMap]
  exact congrArg (List.filterMap · _) (funext hreason)

end Found

/-! ### What does not matter -/

/-- What is left of a line without its comment and outer white space depends on its trim alone. -/
theorem trim_stripComment_congr {line other : Text} (h : Text.trim line = Text.trim other) :
    Text.trim (Declaration.stripComment line) = Text.trim (Declaration.stripComment other) := by
  have hcore : ∀ line, Text.trim (Declaration.stripComment line)
      = Text.trim (Declaration.stripComment (Text.trim line)) := by
    intro line
    obtain ⟨left, right, hleft, hright, hline⟩ := exists_blanks_append_trim line
    obtain ⟨kept, hkept, hstrip⟩ := Declaration.exists_stripComment_append_blanks hright
      (left ++ Text.trim line)
    conv_lhs => rw [hline, hstrip, Declaration.stripComment_blanks_append hleft]
    rw [trim_append_blanks hkept, trim_blanks_append hleft]
  rw [hcore line, hcore other, h]

/-- White space around a line does not matter to its class. -/
theorem ignoresLayout_lineClass? (config : Config) : IgnoresLayout (lineClass? config) where
  quiet hquiet := by simp [lineClass?, hquiet]
  congr htrim := by
    rw [lineClass?, lineClass?, isQuiet_congr htrim, isDirective, isDirective, htrim, classify,
      classify, trim_stripComment_congr htrim]

/-- A comment that is opened behind a line does not matter to its class. -/
theorem lineClass?_append_comment (config : Config) (line comment : Text) :
    lineClass? config (line ++ '/' :: '*' :: comment) = lineClass? config line := by
  have hstart : Text.trimStart (line ++ '/' :: '*' :: comment)
      = Text.trimStart line ++ '/' :: '*' :: comment :=
    trimStart_append line fun c hc => by cases hc; decide
  have hquiet : isQuiet (line ++ '/' :: '*' :: comment) = isQuiet line := by
    rw [Bool.eq_iff_iff, isQuiet_iff, isQuiet_iff, hstart, opener_prefix_append_iff]
    simp
  by_cases hline : isQuiet line = true
  · -- a line without code has none behind the comment either
    rw [(ignoresLayout_lineClass? config).quiet hline,
      (ignoresLayout_lineClass? config).quiet (hquiet.trans hline)]
  · have hne : Text.trimStart line ≠ [] := fun hnil => hline (isQuiet_iff.mpr (.inl hnil))
    have hdirective : isDirective (line ++ '/' :: '*' :: comment) = isDirective line := by
      rw [Bool.eq_iff_iff, isDirective_iff, isDirective_iff, hstart, List.head?_append,
        Option.or_of_isSome (List.isSome_head?.mpr hne)]
    rw [lineClass?, lineClass?, hquiet, hdirective, classify, classify,
      Declaration.stripComment_append_comment]

/-- One change to a text that is silent about its code: a change of its layout, or a comment behind
one of its lines. -/
inductive SilentEdit : Text → Text → Prop
  | layout {s t : Text} (h : LayoutEdit s t) : SilentEdit s t
  | comment {before after : List Text} {line comment : Text} (hline : '\n' ∉ line)
      (hcomment : '\n' ∉ comment) :
    SilentEdit (Text.unlines (before ++ line :: after))
      (Text.unlines (before ++ (line ++ '/' :: '*' :: comment) :: after))

section Edits

variable (config : Config) {source other : Text}

/-- A silent edit keeps the classes of the lines of code. -/
theorem lineClasses_of_silentEdit (h : SilentEdit source other) :
    lineClasses config source = lineClasses config other := by
  have hview := ignoresLayout_lineClass? config
  rw [lineClasses, lineClasses]
  cases h with
  | layout h => exact seenLines_of_layoutEdit hview h
  | comment hline hcomment =>
    have hfeed : ∀ {line comment : Text}, '\n' ∉ line → '\n' ∉ comment →
        '\n' ∉ line ++ '/' :: '*' :: comment := by
      intro line comment hline hcomment
      simp [hline, hcomment]
    simp only [seenLines_unlines hview, List.flatMap_append, List.flatMap_cons,
      seenLines_line hview hline, seenLines_line hview (hfeed hline hcomment),
      lineClass?_append_comment]

/-- **Silent edits** keep the classes of the lines of code, however many there are. -/
theorem lineClasses_of_silentEdits (h : Relation.ReflTransGen SilentEdit source other) :
    lineClasses config source = lineClasses config other := by
  induction h with
  | refl => rfl
  | tail _ hedit ih => exact ih.trans (lineClasses_of_silentEdit config hedit)

/-- **Lines in another order** have their classes in that order. -/
theorem lineClasses_perm (h : (source.splitOn '\n').Perm (other.splitOn '\n')) :
    (lineClasses config source).Perm (lineClasses config other) :=
  (h.map (Text.dropFinal '\r')).filterMap (lineClass? config)

end Edits

end StateOverlay
