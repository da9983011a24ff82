/-
Patching a companion.

Patching looks for the line that it is to insert, and then for the marker.  The line goes in front of
the first place of the marker, wherever that place is on its own line, and two line feeds go between
the two:

* `patch_eq_inserted_iff`, `patch_eq_alreadyPatched_iff`, `patch_eq_markerMissing_iff` — what patching
  comes to;
* `inclusion_mem_lines_iff` — an inclusion that ends its line is a line of its own exactly if only
  white space stands in front of it;
* `inclusion_alone_iff` — so the inserted inclusion is a line of its own exactly if the first marker
  is the first thing on its line;
* `inclusion_behind_declaration` — behind a declaration on the line of the marker it is not.

Design notes: a line of its own is a line of the patched text that is the inclusion and nothing else
when it is trimmed.  No other line can be, since patching leaves a source alone in which the
inclusion occurs.
-/
import StateOverlay.Companion
import StateOverlay.Proofs.Text.Lines

namespace StateOverlay

/-! ### What patching comes to -/

/-- A source that can be patched neither before nor now: it holds neither line nor marker. -/
theorem patch_eq_markerMissing_iff {line marker source : Text} :
    patch line marker source = .markerMissing ↔ ¬ line <:+: source ∧ ¬ marker <:+: source := by
  rw [patch, ← occursIn_iff, ← occursIn_iff]
  split
  · case isTrue hline => simp [hline]
  · case isFalse hline =>
    rw [Text.occursIn, Text.occursIn] at *
    split
    · case h_1 before rest hcut => simp [hcut]
    · case h_2 hcut => simpa [hcut] using hline

theorem patch_eq_alreadyPatched_iff {line marker source : Text} :
    patch line marker source = .alreadyPatched ↔ line <:+: source := by
  rw [patch, ← occursIn_iff]
  split
  · case isTrue hline => simp [hline]
  · case isFalse hline => split <;> simp [hline]

/-- Patching inserts its line in front of the first marker of a source without that line. -/
theorem patch_eq_inserted_iff {line marker source patched : Text} :
    patch line marker source = .inserted patched ↔
      ¬ line <:+: source ∧
        ∃ before rest, Text.cutAt? marker source = some (before, rest) ∧
          patched = before ++ line ++ ['\n', '\n'] ++ rest := by
  rw [patch, ← occursIn_iff]
  by_cases hline : Text.occursIn line source
  · rw [if_pos hline]
    exact ⟨nofun, fun h => absurd hline h.1⟩
  · rw [if_neg hline]
    cases hcut : Text.cutAt? marker source with
    | none =>
      refine ⟨nofun, ?_⟩
      rintro ⟨_, _, _, h, _⟩
      cases h
    | some cut =>
      obtain ⟨before, rest⟩ := cut
      constructor
      · rintro ⟨⟩
        exact ⟨hline, before, rest, rfl, rfl⟩
      · rintro ⟨_, _, _, h, rfl⟩
        cases h
        rfl

/-- A patched source holds the line that was inserted. -/
theorem infix_of_patch_eq_inserted {line marker source patched : Text}
    (h : patch line marker source = .inserted patched) : line <:+: patched := by
  obtain ⟨_, before, rest, _, rfl⟩ := patch_eq_inserted_iff.mp h
  rw [List.append_assoc]
  exact ⟨before, ['\n', '\n'] ++ rest, rfl⟩

/-! ### The line of the inclusion -/

section
variable {file before rest : Text}

/-- A text is no trimmed line of another in which it does not occur. -/
theorem not_mem_trimmed_lines {line s : Text} (h : ¬ line <:+: s) :
    line ∉ (Text.lines s).map Text.trim := by
  intro hmem
  obtain ⟨whole, hwhole, rfl⟩ := List.mem_map.mp hmem
  exact h ((trim_isInfix whole).trans (infix_of_mem_lines hwhole))

/-- What stands in front of an inclusion on its line is in front of it in the trimmed line. -/
theorem trim_append_includeLine (front : Text) :
    Text.trim (front ++ includeLine file) = Text.trimStart front ++ includeLine file := by
  have hne : includeLine file ≠ [] := List.cons_ne_nil _ _
  rw [← List.append_nil (front ++ includeLine file)]
  exact trim_append_append hne (isBlank_of_head?_includeLine file)
    (isBlank_of_getLast?_includeLine file) (List.forall_mem_nil _)

/-- The last line of a text that an inclusion ends is that inclusion exactly if only white space
stands in front of it. -/
theorem inclusion_mem_lines_iff_of_last (hfile : '\n' ∉ file)
    (hbefore : ¬ includeLine file <:+: before) :
    includeLine file ∈ (Text.lines (before ++ includeLine file)).map Text.trim ↔
      ∀ c ∈ lastLine before, isBlank c := by
  have hlast : '\n' ∉ lastLine before ++ includeLine file := fun h =>
    (List.mem_append.mp h).elim (not_mem_lastLine before) (not_mem_includeLine hfile)
  have hline : includeLine file ∈ (Text.lines (lastLine before ++ includeLine file)).map Text.trim ↔
      ∀ c ∈ lastLine before, isBlank c := by
    rw [lines_eq_singleton hlast, List.map_singleton, List.mem_singleton, trim_dropFinal,
      trim_append_includeLine, eq_comm, List.append_left_eq_self, Text.trimStart,
      List.dropWhile_eq_nil_iff]
  rcases eq_lastLine_or_append before with heq | ⟨front, heq⟩
  · rwa [← heq] at hline ⊢
  · -- the lines in front of the last one are lines of the text
    have hfront : ¬ includeLine file <:+: front := fun h =>
      hbefore (heq ▸ h.trans (List.prefix_append _ _).isInfix)
    conv_lhs => rw [heq, List.append_assoc, List.cons_append, lines_append_feed, List.map_append,
      List.mem_append, or_iff_right (not_mem_trimmed_lines hfront)]
    exact hline

/-- An inclusion that ends its line, in a text that holds it only once, is a line of its own exactly
if only white space stands in front of it. -/
theorem inclusion_mem_lines_iff (hfile : '\n' ∉ file) (hbefore : ¬ includeLine file <:+: before)
    (hrest : ¬ includeLine file <:+: rest) :
    includeLine file ∈ (Text.lines (before ++ includeLine file ++ '\n' :: rest)).map Text.trim ↔
      ∀ c ∈ lastLine before, isBlank c := by
  rw [lines_append_feed, List.map_append, List.mem_append, or_iff_left (not_mem_trimmed_lines hrest)]
  exact inclusion_mem_lines_iff_of_last hfile hbefore

end

/-- Patching inserts the inclusion of the cleanup in front of the first marker and ends its line
there.  The inclusion is a line of its own exactly if nothing but white space stands in front of
that marker on its line. -/
theorem inclusion_alone_iff {config : Config} {source patched : Text}
    (hfile : '\n' ∉ config.cleanupFile)
    (hpatch : patch config.cleanupInclude config.companionMarker source = .inserted patched) :
    ∃ before rest, source = before ++ rest ∧ config.companionMarker <+: rest ∧
      (∀ shorter longer, source = shorter ++ longer → shorter.length < before.length →
        ¬ config.companionMarker <+: longer) ∧
      patched = before ++ config.cleanupInclude ++ '\n' :: '\n' :: rest ∧
      (config.cleanupInclude ∈ (Text.lines patched).map Text.trim ↔
        ∀ c ∈ lastLine before, isBlank c) := by
  obtain ⟨hsource, before, rest, hcut, rfl⟩ := patch_eq_inserted_iff.mp hpatch
  obtain ⟨rfl, hmarker, hfirst⟩ := cutAt?_eq_some_iff.mp hcut
  have hbefore : ¬ config.cleanupInclude <:+: before := fun h =>
    hsource (h.trans (List.prefix_append before rest).isInfix)
  have hrest : ¬ config.cleanupInclude <:+: '\n' :: rest := by
    intro h
    rcases infix_of_infix_append_cons (s := []) h (not_mem_includeLine hfile) with h | h
    · exact hsource (h.trans List.nil_infix)
    · exact hsource (h.trans (List.suffix_append before rest).isInfix)
  refine ⟨before, rest, rfl, hmarker, hfirst, List.append_assoc .., ?_⟩
  rw [List.append_assoc _ ['\n', '\n'] rest]
  exact inclusion_mem_lines_iff hfile hbefore hrest

/-- A marker behind a tab, where the inclusion is a line of its own. -/
theorem inclusion_alone_iff_indented :
    let config : Config := {}
    let source := "int x;\r\n\tstatic void COBOLANA_module_init (void);\n".toList
    let patched := "int x;\r\n\t#include \"cobolana_locals_cleanup.h\"\n\n".toList ++
      "static void COBOLANA_module_init (void);\n".toList
    '\n' ∉ config.cleanupFile ∧
      patch config.cleanupInclude config.companionMarker source = .inserted patched ∧
      config.cleanupInclude ∈ (Text.lines patched).map Text.trim := by
  intro config source patched
  have hfile : '\n' ∉ config.cleanupFile := by decide +kernel
  have hpatch : patch config.cleanupInclude config.companionMarker source = .inserted patched := by
    decide +kernel
  obtain ⟨before, rest, hsource, hmarker, hfirst, _, halone⟩ := inclusion_alone_iff hfile hpatch
  -- the first marker stands behind the tab
  have hplace : Text.cutAt? config.companionMarker source =
      some ("int x;\r\n\t".toList, "static void COBOLANA_module_init (void);\n".toList) := by
    decide +kernel
  cases hplace.symm.trans (cutAt?_eq_some_iff.mpr ⟨hsource, hmarker, hfirst⟩)
  exact ⟨hfile, hpatch, halone.mpr (by decide +kernel)⟩

/-- A declaration in front of the marker stands in front of the inclusion too. -/
theorem inclusion_behind_declaration :
    let config : Config := {}
    let source := "int x; static void COBOLANA_module_init (void);\n".toList
    let patched := "int x; #include \"cobolana_locals_cleanup.h\"\n\n".toList ++
      "static void COBOLANA_module_init (void);\n".toList
    '\n' ∉ config.cleanupFile ∧
      patch config.cleanupInclude config.companionMarker source = .inserted patched ∧
      config.cleanupInclude ∉ (Text.lines patched).map Text.trim := by
  decide +kernel

end StateOverlay
