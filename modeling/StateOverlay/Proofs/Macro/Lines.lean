/-
Generated texts as lines.

Here a generated text is no more than its lines, and a name is read where a line saves or restores
it.  What is read so from a text of fragments is what the fragments stand for:

* `pragmaName?_eq_some_iff` — a name is read in a line exactly if that is the pragma about it;
* `Fragment.lines_render` — the lines of a fragment;
* `Reads.lines_unlines` — the lines of a text of fragments are those of the fragments;
* `Reads.pragmaNames_unlines` — the names in its lines are those of its directives.
-/
import StateOverlay.Proofs.Macro.Fragments

namespace StateOverlay

open Preprocessor

/-! ### Pragmas in lines -/

/-- What stands between a front and a back that make up the rest of a line. -/
def enclosed? (front back line : Text) : Option Text :=
  (front.isPrefixOf? line).bind (back.isSuffixOf? ·)

theorem enclosed?_eq_some_iff {front back line inner : Text} :
    enclosed? front back line = some inner ↔ line = front ++ inner ++ back := by
  rw [enclosed?, Option.bind_eq_some_iff]
  constructor
  · rintro ⟨rest, hrest, hinner⟩
    rw [isPrefixOf?_eq_some_iff] at hrest
    rw [List.isSuffixOf?_eq_some_iff_append_eq] at hinner
    rw [hrest, ← hinner, List.append_assoc]
  · rintro rfl
    refine ⟨inner ++ back, ?_, List.isSuffixOf?_eq_some_iff_append_eq.mpr rfl⟩
    rw [isPrefixOf?_eq_some_iff, List.append_assoc]

/-- The name that stands in the line of a pragma. -/
def pragmaName? (word line : Text) : Option Text :=
  enclosed? ("#pragma ".toList ++ (word ++ ['(', '"'])) ['"', ')'] line

/-- The names in those lines of a text that are lines of a pragma. -/
def pragmaNames (word text : Text) : List Text := (Text.lines text).filterMap (pragmaName? word)

/-- The names whose definitions a text saves, line by line. -/
def savedNames (text : Text) : List Text := pragmaNames "push_macro".toList text

/-- The names whose definitions a text restores, line by line. -/
def restoredNames (text : Text) : List Text := pragmaNames "pop_macro".toList text

/-- A name is read in a line exactly if the line is the pragma about it. -/
theorem pragmaName?_eq_some_iff {word line name : Text} :
    pragmaName? word line = some name ↔ line = pragmaLine word name := by
  have hline : "#pragma ".toList ++ (word ++ ['(', '"']) ++ name ++ ['"', ')']
      = pragmaLine word name := by
    unfold pragmaLine
    simp only [List.append_assoc, List.cons_append, List.nil_append]
  rw [pragmaName?, enclosed?_eq_some_iff, hline]

/-- No name is read in a line that begins in another way. -/
theorem pragmaName?_eq_none {word line : Text} (h : ['#', 'p'].isPrefixOf line = false) :
    pragmaName? word line = none := by
  rw [Option.eq_none_iff_forall_ne_some]
  intro name hname
  have hpragma : ['#', 'p'].isPrefixOf (pragmaLine word name) = true := rfl
  rw [pragmaName?_eq_some_iff.mp hname, hpragma] at h
  cases h

/-- Two words that end at the first parentheses of the same text are the same. -/
theorem eq_of_append_parenthesis {word other s t : Text} (hword : IsIdentifier word)
    (hother : IsIdentifier other) (h : word ++ '(' :: s = other ++ '(' :: t) : word = other := by
  have hopen : ∀ {word : Text}, IsIdentifier word → '(' ∉ word :=
    fun h => h.not_mem (by decide) (by decide)
  rw [← (takeWhile_ne_append (hopen hword) s).1, h, (takeWhile_ne_append (hopen hother) t).1]

/-- The pragma of one word is read as that of another only if the words are the same. -/
theorem pragmaName?_pragmaLine {word other : Text} (hword : IsIdentifier word)
    (hother : IsIdentifier other) (name : Text) :
    pragmaName? word (pragmaLine other name) = if word = other then some name else none := by
  by_cases hsame : word = other
  · rw [if_pos hsame, pragmaName?_eq_some_iff, hsame]
  · rw [if_neg hsame, Option.eq_none_iff_forall_ne_some]
    intro found hfound
    have hline := pragmaName?_eq_some_iff.mp hfound
    unfold pragmaLine at hline
    simp only [List.append_cancel_left_eq] at hline
    exact hsame (eq_of_append_parenthesis hother hword hline).symm

/-- The name that a directive saves or restores, by the word of its pragma. -/
def directiveName? (word : Text) : Preprocessor.Directive → Option Text
  | .command (.push name) => if word = "push_macro".toList then some name else none
  | .command (.pop name) => if word = "pop_macro".toList then some name else none
  | _ => none

theorem directiveName?_push (word name : Text) :
    directiveName? word (.command (.push name))
      = if word = "push_macro".toList then some name else none := rfl

theorem directiveName?_pop (word name : Text) :
    directiveName? word (.command (.pop name))
      = if word = "pop_macro".toList then some name else none := rfl

/-! ### Lines of fragments -/

/-- A text that is read back as one line. -/
structure IsLine (line : Text) : Prop where
  feed : '\n' ∉ line
  carriageReturn : line.getLast? ≠ some '\r'

theorem isLine_append_identifier {s name : Text} (hs : '\n' ∉ s) (h : IsIdentifier name) :
    IsLine (s ++ name) :=
  ⟨List.not_mem_append hs h.feed, getLast?_append_identifier h rfl s⟩

theorem isLine_append_of_getLast? {s t : Text} {c : Char} (hs : '\n' ∉ s) (ht : '\n' ∉ t)
    (hlast : t.getLast? = some c) (hc : c ≠ '\r') : IsLine (s ++ t) :=
  ⟨List.not_mem_append hs ht, getLast?_ne_of_eq_some (getLast?_append_of_eq_some hlast) hc⟩

theorem isLine_pragmaLine {word name : Text} (hword : IsIdentifier word) (h : IsIdentifier name) :
    IsLine (pragmaLine word name) := by
  have hclose : (word ++ '(' :: '"' :: (name ++ ['"', ')'])).getLast? = some ')' := by
    simp [List.getLast?_cons]
  refine isLine_append_of_getLast? (by decide) ?_ hclose (by decide)
  simp [hword.feed, h.feed]

namespace Fragment

/-- The lines of a definition. -/
def definitionLines (name : Text) (params : Option (List Text)) (expansion : Text) : List Text :=
  match params with
  | some params =>
    ["#define ".toList ++ name ++ (['('] ++ [',', ' '].intercalate params ++ ") \\".toList),
      [' ', ' '] ++ expansion]
  | none => ["#define ".toList ++ name ++ ([' '] ++ expansion)]

/-- The lines of a fragment. -/
def lines : Fragment → List Text
  | .guardOpen guard => ["#ifndef ".toList ++ guard, "#define ".toList ++ guard]
  | .shadow name params expansion =>
    pragmaLine "push_macro".toList name :: ("#undef ".toList ++ name) ::
      definitionLines name params expansion
  | .restore name => [pragmaLine "pop_macro".toList name]
  | fragment => [fragment.render]

theorem definition_eq_unlines (name : Text) (params : Option (List Text)) (expansion : Text) :
    definition name params expansion = Text.unlines (definitionLines name params expansion) := by
  cases params with
  | none =>
    show "#define ".toList ++ name ++ [' '] ++ expansion
      = Text.unlines ["#define ".toList ++ name ++ ([' '] ++ expansion)]
    rw [unlines_singleton, List.append_assoc _ [' ']]
  | some params =>
    have hcontinued : ") \\\n  ".toList = ") \\".toList ++ '\n' :: [' ', ' '] := by decide
    show "#define ".toList ++ name ++ ['('] ++ [',', ' '].intercalate params ++
      ") \\\n  ".toList ++ expansion = Text.unlines
        ["#define ".toList ++ name ++ (['('] ++ [',', ' '].intercalate params ++ ") \\".toList),
          [' ', ' '] ++ expansion]
    rw [unlines_cons_cons, unlines_singleton, hcontinued]
    simp only [List.append_assoc, List.cons_append]

/-- A fragment is its lines with a line feed between each two. -/
theorem render_eq_unlines (fragment : Fragment) :
    fragment.render = Text.unlines fragment.lines := by
  cases fragment with
  | guardOpen guard =>
    rw [render_guardOpen, ← unlines_singleton ("#define ".toList ++ guard)]
    rfl
  | shadow name params expansion =>
    have hne : definitionLines name params expansion ≠ [] := by
      cases params with
      | none => exact List.cons_ne_nil _ _
      | some params => exact List.cons_ne_nil _ _
    obtain ⟨first, rest, hlines⟩ := List.exists_cons_of_ne_nil hne
    show _ = Text.unlines (pragmaLine "push_macro".toList name ::
      ("#undef ".toList ++ name) :: definitionLines name params expansion)
    rw [render_shadow, definition_eq_unlines, hlines, unlines_cons_cons, unlines_cons_cons]
  | restore name => exact (render_restore name).trans (unlines_singleton _).symm
  | guardClose guard => exact (unlines_singleton _).symm
  | assignment instanceName record field value => exact (unlines_singleton _).symm
  | «alias» type name target => exact (unlines_singleton _).symm
  | verbatim line => exact (unlines_singleton _).symm

/-- The lines of a definition are read back. -/
theorem isLine_of_mem_definitionLines {name expansion : Text} {params : Option (List Text)}
    (h : (Fragment.shadow name params expansion).IsClean) :
    ∀ line ∈ definitionLines name params expansion, IsLine line := by
  obtain ⟨hname, hparams, hfeed, _, hlast⟩ := h
  have hdefine : '\n' ∉ "#define ".toList ++ name := List.not_mem_append (by decide) hname.feed
  cases params with
  | none =>
    exact List.forall_mem_singleton.mpr (isLine_append_of_getLast? hdefine
      (List.not_mem_append (by decide) hfeed) (getLast?_append_of_eq_some hlast) (by decide))
  | some params =>
    have hfeeds : '\n' ∉ [',', ' '].intercalate params :=
      not_mem_intercalate (by decide) fun param hparam => (hparams param hparam).feed
    have hclose : ") \\".toList.getLast? = some '\\' := by decide
    have hrest : '\n' ∉ ['('] ++ [',', ' '].intercalate params ++ ") \\".toList :=
      List.not_mem_append (List.not_mem_append (by decide) hfeeds) (by decide)
    -- the first line ends in its continuation, and the expansion stands on the second
    exact List.forall_mem_cons.mpr ⟨isLine_append_of_getLast? hdefine hrest
      (getLast?_append_of_eq_some hclose) (by decide), List.forall_mem_singleton.mpr
        (isLine_append_of_getLast? (by decide) hfeed hlast (by decide))⟩

/-- The lines of a fragment are read back. -/
theorem isLine_of_mem_lines : ∀ {fragment : Fragment}, fragment.IsClean →
    ∀ line ∈ fragment.lines, IsLine line
  | .guardOpen guard, h =>
    List.forall_mem_cons.mpr ⟨isLine_append_identifier (by decide) h,
      List.forall_mem_singleton.mpr (isLine_append_identifier (by decide) h)⟩
  | .guardClose guard, h => by
    have hend : " */".toList.getLast? = some '/' := by decide
    exact List.forall_mem_singleton.mpr (isLine_append_of_getLast?
      (List.not_mem_append (by decide) h) (by decide) hend (by decide))
  | .assignment .., h =>
    List.forall_mem_singleton.mpr ⟨(isCode_assignment h).feed,
      getLast?_ne_of_eq_some (c := ';') List.getLast?_concat (by decide)⟩
  | .alias .., h =>
    List.forall_mem_singleton.mpr ⟨(isCode_alias h).feed,
      getLast?_ne_of_eq_some (c := ';') List.getLast?_concat (by decide)⟩
  | .shadow name params expansion, h =>
    List.forall_mem_cons.mpr ⟨isLine_pragmaLine (by decide) h.1,
      List.forall_mem_cons.mpr ⟨isLine_append_identifier (by decide) h.1,
        isLine_of_mem_definitionLines h⟩⟩
  | .restore name, h => List.forall_mem_singleton.mpr (isLine_pragmaLine (by decide) h)
  | .verbatim line, h => by
    refine List.forall_mem_singleton.mpr ?_
    rcases h with rfl | ⟨hcode, hend⟩
    · exact ⟨List.not_mem_nil, fun hlast => nomatch hlast⟩
    · exact ⟨hcode.feed, getLast?_ne_of_eq_some hend (by decide)⟩

/-- **The lines of a fragment** are the lines of its text. -/
theorem lines_render {fragment : Fragment} (h : fragment.IsClean) :
    Text.lines fragment.render = fragment.lines := by
  have hlines := isLine_of_mem_lines h
  have hne : fragment.lines ≠ [] := by
    cases fragment <;> exact List.cons_ne_nil _ _
  have hkept : fragment.lines.map (Text.dropFinal '\r') = fragment.lines.map id :=
    List.map_congr_left fun line hline => if_neg (hlines line hline).carriageReturn
  rw [render_eq_unlines, lines_unlines hne fun line hline => (hlines line hline).feed, hkept,
    List.map_id]

end Fragment

/-! ### Names in lines -/

section Names

variable {word : Text}

theorem filterMap_pragmaName?_eq_nil {lines : List Text}
    (h : ∀ line ∈ lines, ['#', 'p'].isPrefixOf line = false) :
    lines.filterMap (pragmaName? word) = [] :=
  List.filterMap_eq_nil_iff.mpr fun line hline => pragmaName?_eq_none (h line hline)

/-- A line of code is no pragma. -/
theorem IsCode.isPrefixOf_eq_false {line : Text} (h : IsCode line) :
    ['#', 'p'].isPrefixOf line = false := by
  obtain ⟨c, rest, rfl, hc⟩ := h.begins
  have hsign : ('#' == c) = false := by
    rw [beq_eq_false_iff_ne]
    rintro rfl
    cases hc
  show ('#' == c && ['p'].isPrefixOf rest) = false
  rw [hsign, Bool.false_and]

theorem isPrefixOf_definitionLines (name : Text) (params : Option (List Text)) (expansion : Text) :
    ∀ line ∈ Fragment.definitionLines name params expansion,
      ['#', 'p'].isPrefixOf line = false := by
  cases params with
  | none => exact List.forall_mem_singleton.mpr rfl
  | some params => exact List.forall_mem_cons.mpr ⟨rfl, List.forall_mem_singleton.mpr rfl⟩

/-- The names in the lines of a fragment are those of its directives. -/
theorem filterMap_pragmaName?_lines (hword : IsIdentifier word) : ∀ {fragment : Fragment},
    fragment.IsClean → fragment.lines.filterMap (pragmaName? word)
      = fragment.directives.filterMap (directiveName? word)
  | .guardOpen guard, _ =>
    filterMap_pragmaName?_eq_nil
      (List.forall_mem_cons.mpr ⟨rfl, List.forall_mem_singleton.mpr rfl⟩)
  | .guardClose guard, _ => filterMap_pragmaName?_eq_nil (List.forall_mem_singleton.mpr rfl)
  | .assignment .., h =>
    filterMap_pragmaName?_eq_nil
      (List.forall_mem_singleton.mpr (isCode_assignment h).isPrefixOf_eq_false)
  | .alias .., h =>
    filterMap_pragmaName?_eq_nil
      (List.forall_mem_singleton.mpr (isCode_alias h).isPrefixOf_eq_false)
  | .shadow name params expansion, _ => by
    -- the first line is the only pragma among them
    have hrest : (("#undef ".toList ++ name) ::
        Fragment.definitionLines name params expansion).filterMap (pragmaName? word) = [] :=
      filterMap_pragmaName?_eq_nil
        (List.forall_mem_cons.mpr ⟨rfl, isPrefixOf_definitionLines name params expansion⟩)
    show (pragmaLine "push_macro".toList name :: ("#undef ".toList ++ name) ::
      Fragment.definitionLines name params expansion).filterMap (pragmaName? word) = _
    rw [List.filterMap_cons, pragmaName?_pragmaLine hword (by decide), hrest]
    rfl
  | .restore name, _ => by
    show [pragmaLine "pop_macro".toList name].filterMap (pragmaName? word) = _
    rw [List.filterMap_cons, pragmaName?_pragmaLine hword (by decide)]
    rfl
  | .verbatim line, h => by
    refine filterMap_pragmaName?_eq_nil (List.forall_mem_singleton.mpr ?_)
    rcases h with rfl | ⟨hcode, _⟩
    · rfl
    · exact hcode.isPrefixOf_eq_false

variable {fragments : List Fragment} {found : List Preprocessor.Directive}
  (h : Reads fragments found) (hne : fragments ≠ [])

include h hne

/-- The lines of a text of fragments are those of the fragments. -/
theorem Reads.lines_unlines :
    Text.lines (Text.unlines (fragments.map Fragment.render))
      = fragments.flatMap Fragment.lines := by
  rw [lines_unlines_eq_flatMap (mt List.map_eq_nil_iff.mp hne), List.flatMap_map]
  exact List.flatMap_congr fun fragment hfragment =>
    Fragment.lines_render (h.clean fragment hfragment)

/-- **The names in the lines** of a text of fragments are those of its directives. -/
theorem Reads.pragmaNames_unlines (hword : IsIdentifier word) :
    pragmaNames word (Text.unlines (fragments.map Fragment.render))
      = found.filterMap (directiveName? word) := by
  rw [pragmaNames, h.lines_unlines hne, ← h.found, List.filterMap_flatMap, List.filterMap_flatMap]
  exact List.flatMap_congr fun fragment hfragment =>
    filterMap_pragmaName?_lines hword (h.clean fragment hfragment)

end Names

end StateOverlay
