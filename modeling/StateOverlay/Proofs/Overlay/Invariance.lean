/-
What the generated texts depend on.

The overlay and the cleanup are made of a scan, and of its identifiers they use no more than which
there are: a value is led into the container if it is among them, and the shadows are sorted.  So
the texts stay the same wherever the scan finds the same, or the same in another order:

* `recordAssignments_congr`, `shadowed_congr`, `cleanup_congr`, `overlay_congr` — the parts of the
  texts, by the identifiers in any order;
* `identifiers_perm`, `records_perm`, `alreadyTransformed_congr` — what a scan finds if the lines
  come in another order;
* `layout_and_comments_do_not_matter` — silent edits of a header change neither what is found nor
  what is generated;
* `line_order_does_not_matter` — nor does the order of its lines, but for that of the records.
-/
import StateOverlay.Proofs.Scan.LineClasses
import StateOverlay.Proofs.Text.Order

namespace StateOverlay

/-! ### The texts of a scan -/

section Congr

variable {config : Config} {scan other : Scan} (h : scan.identifiers.Perm other.identifiers)

include h

theorem isRelocated_congr (name : Text) : scan.isRelocated name = other.isRelocated name := by
  rw [Bool.eq_iff_iff, Scan.isRelocated, Scan.isRelocated, List.contains_iff_mem,
    List.contains_iff_mem, h.mem_iff]

theorem relocatedValue_congr (value : Text) :
    relocatedValue config scan value = relocatedValue config other value := by
  have hrelocated : scan.isRelocated = other.isRelocated := funext (isRelocated_congr h)
  unfold relocatedValue
  rw [hrelocated]

/-- The assignments of a record depend on which identifiers are relocated. -/
theorem recordAssignments_congr (record : Record) :
    recordAssignments config scan record = recordAssignments config other record := by
  have hvalue : relocatedValue config scan = relocatedValue config other :=
    funext (relocatedValue_congr h)
  rw [recordAssignments, recordAssignments, hvalue]

/-- The shadowed names do not depend on the order in which the identifiers are found. -/
theorem shadowed_congr : Overlay.shadowed config scan = Overlay.shadowed config other := by
  rw [Overlay.shadowed, Overlay.shadowed, Scan.sortedIdentifiers, Scan.sortedIdentifiers,
    Text.sort_congr h]

/-- The cleanup depends on which identifiers are relocated. -/
theorem cleanup_congr :
    (Overlay.generate config scan).cleanup = (Overlay.generate config other).cleanup := by
  show Text.unlines ((Overlay.cleanupFragments config scan).map Fragment.render) = _
  rw [Overlay.cleanupFragments, shadowed_congr h]
  rfl

/-- The overlay depends on the records and on which identifiers are relocated. -/
theorem overlay_congr (hrecords : scan.records = other.records) :
    (Overlay.generate config scan).overlay = (Overlay.generate config other).overlay := by
  have hassignments : recordAssignments config scan = recordAssignments config other :=
    funext (recordAssignments_congr h)
  show Text.unlines ((Overlay.overlayFragments config scan).map Fragment.render) = _
  rw [Overlay.overlayFragments, hrecords, hassignments, isRelocated_congr h, shadowed_congr h]
  rfl

end Congr

/-! ### Layout and comments -/

/-- **Layout and comments do not matter**: after any number of changes to the white space around
lines, to the comments behind them and to the quiet lines between them, a header scans to the same
identifiers, records and reasons, and the same overlay and cleanup are generated. -/
theorem layout_and_comments_do_not_matter (config : Config) (source edited : Text)
    (h : Relation.ReflTransGen SilentEdit source edited) :
    let before := Scan.ofSource config source
    let after := Scan.ofSource config edited
    after.identifiers = before.identifiers ∧
    after.records = before.records ∧
    after.skipped.map SkippedLine.reason = before.skipped.map SkippedLine.reason ∧
    (Overlay.generate config after).overlay = (Overlay.generate config before).overlay ∧
    (Overlay.generate config after).cleanup = (Overlay.generate config before).cleanup := by
  intro before after
  have hclasses := lineClasses_of_silentEdits config h
  have hidentifiers : after.identifiers = before.identifiers := by
    rw [identifiers_eq, identifiers_eq, hclasses]
  have hrecords : after.records = before.records := by
    rw [records_eq, records_eq, hclasses]
  have hreasons : after.skipped.map SkippedLine.reason = before.skipped.map SkippedLine.reason := by
    rw [reasons_eq, reasons_eq, hclasses]
  have hperm : after.identifiers.Perm before.identifiers := .of_eq hidentifiers
  exact ⟨hidentifiers, hrecords, hreasons, overlay_congr hperm hrecords, cleanup_congr hperm⟩

/-- A comment in front of the body, one behind a slash and one behind a declaration, which changes
its margins too. -/
theorem layout_and_comments_do_not_matter_slash :
    let source := "static int a;\nint b /".toList
    let edited := "/* top */\n\tstatic int a;\r\nint b //* end".toList
    Relation.ReflTransGen SilentEdit source edited ∧
      (Scan.ofSource {} edited).identifiers = [['a']] ∧
      (Scan.ofSource {} edited).skipped.map SkippedLine.reason = [.unterminated] ∧
      (Overlay.generate {} (Scan.ofSource {} edited)).overlay
        = (Overlay.generate {} (Scan.ofSource {} source)).overlay := by
  intro source edited
  -- the comment at the end comes first, then the white space, then the comment at the top
  have hend : SilentEdit source "static int a;\nint b //* end".toList :=
    @SilentEdit.comment ["static int a;".toList] [] "int b /".toList " end".toList
      (by decide) (by decide)
  have hmargins : LayoutEdit "static int a;\nint b //* end".toList
      "\tstatic int a;\r\nint b //* end".toList :=
    @LayoutEdit.margins [] ["int b //* end".toList] [] ['\t'] "static int a;".toList [] ['\r']
      (by decide) ⟨by decide, by decide⟩ ⟨by decide, by decide⟩ ⟨by decide, by decide⟩
      ⟨by decide, by decide⟩
  have hquiet : IsQuietLine "/* top */".toList :=
    ⟨by decide, .inr ⟨[], " top */".toList, List.forall_mem_nil _, rfl⟩⟩
  have htop : LayoutEdit "\tstatic int a;\r\nint b //* end".toList edited :=
    @LayoutEdit.insertLine [] ["\tstatic int a;\r".toList, "int b //* end".toList] _ hquiet
  have hedits : Relation.ReflTransGen SilentEdit source edited :=
    .tail (.tail (.single hend) (.layout hmargins)) (.layout htop)
  obtain ⟨hidentifiers, _, hreasons, hoverlay, _⟩ :=
    layout_and_comments_do_not_matter {} source edited hedits
  exact ⟨hedits, hidentifiers.trans (by decide +kernel), hreasons.trans (by decide +kernel),
    hoverlay⟩

/-! ### The order of lines -/

section Order

variable (config : Config) {source other : Text}
  (h : (source.splitOn '\n').Perm (other.splitOn '\n'))

include h

/-- Lines in another order declare the same identifiers. -/
theorem identifiers_perm :
    (Scan.ofSource config source).identifiers.Perm (Scan.ofSource config other).identifiers := by
  rw [identifiers_eq, identifiers_eq]
  exact eraseDups_perm ((lineClasses_perm config h).filterMap LineClass.name?)

/-- Lines in another order have the same records. -/
theorem records_perm :
    (Scan.ofSource config source).records.Perm (Scan.ofSource config other).records := by
  rw [records_eq, records_eq]
  exact (lineClasses_perm config h).filterMap LineClass.record?

/-- Whether a header is taken for rewritten does not depend on the order of its lines. -/
theorem alreadyTransformed_congr :
    (Scan.ofSource config source).alreadyTransformed
      = (Scan.ofSource config other).alreadyTransformed := by
  have hlive : (liveLines source).Perm (liveLines other) :=
    ((h.map (Text.dropFinal '\r')).filter _).map Text.trim
  have hnil : liveLines source = [] ↔ liveLines other = [] := by
    rw [← List.length_eq_zero_iff, ← List.length_eq_zero_iff, hlive.length_eq]
  have hall : (∀ line ∈ liveLines source, line = config.overlayInclude) ↔
      ∀ line ∈ liveLines other, line = config.overlayInclude := by
    simp only [hlive.mem_iff]
  rw [Bool.eq_iff_iff, alreadyTransformed_iff, alreadyTransformed_iff, Ne, hnil, hall]

end Order

/-- **The order of declarations does not matter** to the redirection: two headers with the same
lines in any order shadow and restore the same names and assign each record the same way.  What may
differ is the order of the records, and the overlay only if there are any. -/
theorem line_order_does_not_matter (config : Config) (source other : Text)
    (h : (source.splitOn '\n').Perm (other.splitOn '\n')) :
    let first := Scan.ofSource config source
    let second := Scan.ofSource config other
    (Overlay.generate config first).macroIdentifiers
      = (Overlay.generate config second).macroIdentifiers ∧
    (Overlay.generate config first).paramAlias = (Overlay.generate config second).paramAlias ∧
    first.alreadyTransformed = second.alreadyTransformed ∧
    (Overlay.generate config first).cleanup = (Overlay.generate config second).cleanup ∧
    first.records.Perm second.records ∧
    (∀ record, recordAssignments config first record = recordAssignments config second record) ∧
    (first.records = [] →
      (Overlay.generate config first).overlay = (Overlay.generate config second).overlay) := by
  intro first second
  have hidentifiers : first.identifiers.Perm second.identifiers := identifiers_perm config h
  have hrecords : first.records.Perm second.records := records_perm config h
  refine ⟨shadowed_congr hidentifiers, isRelocated_congr hidentifiers _,
    alreadyTransformed_congr config h, cleanup_congr hidentifiers, hrecords,
    recordAssignments_congr hidentifiers, ?_⟩
  intro hnone
  have hother : second.records = [] := (hnone ▸ hrecords).nil_eq.symm
  exact overlay_congr hidentifiers (hnone.trans hother.symm)

/-- A line that moves in front of the preamble, and a name that is first declared elsewhere. -/
theorem line_order_does_not_matter_preamble :
    let source := "/* a */\nstatic int b;\nint a;\nlong b;".toList
    let other := "long b;\nint a;\n/* a */\nstatic int b;".toList
    (source.splitOn '\n').Perm (other.splitOn '\n') ∧
      (Scan.ofSource {} source).identifiers = [['b'], ['a']] ∧
      (Overlay.generate {} (Scan.ofSource {} other)).macroIdentifiers = [['a'], ['b']] ∧
      (Overlay.generate {} (Scan.ofSource {} source)).overlay
        = (Overlay.generate {} (Scan.ofSource {} other)).overlay := by
  intro source other
  have hlines : (source.splitOn '\n').Perm (other.splitOn '\n') := by decide +kernel
  obtain ⟨hnames, _, _, _, _, _, hoverlay⟩ := line_order_does_not_matter {} source other hlines
  have hidentifiers : (Scan.ofSource {} source).identifiers = [['b'], ['a']] := by decide +kernel
  have hsort : Text.sort [['b'], ['a']] = [['a'], ['b']] :=
    Text.sort_eq_of_pairwise (by decide) (by decide)
  have hmacros : Overlay.shadowed {} (Scan.ofSource {} source) = [['a'], ['b']] := by
    rw [Overlay.shadowed, Scan.sortedIdentifiers, hidentifiers, hsort]
    decide
  exact ⟨hlines, hidentifiers, hnames.symm.trans hmacros, hoverlay (by decide +kernel)⟩

end StateOverlay
