/-
The cleanup mirrors the overlay.

Read line by line, the overlay saves the relocated identifiers in ascending order with the entry
macro last, and the cleanup restores what the overlay saved in the opposite order:

* `Redefines`, `redefines_overlay` — behind every name that is saved stand its removal and its new
  definition;
* `alias_mem_lines_iff` — no other line is the alias, so that it is there exactly if the parameter
  array is relocated;
* `savedNames_overlay`, `restoredNames_cleanup` — the names that the texts save and restore;
* `cleanup_mirrors_overlay` — all of it together.
-/
import StateOverlay.Proofs.Macro.Lines
import StateOverlay.Proofs.Macro.Shadow
import StateOverlay.Proofs.Scan.Composition
import StateOverlay.Proofs.Text.Order

namespace StateOverlay

open Preprocessor

/-! ### New definitions -/

/-- Lines in which every name that is saved is removed in the next line, and defined anew in the
line behind that. -/
def Redefines (lines : List Text) : Prop :=
  ∀ before name after, lines = before ++ pragmaLine "push_macro".toList name :: after →
    ∃ definition rest, (∀ c, definition.head? = some c → isWord c = false) ∧
      after = ("#undef ".toList ++ name) :: ("#define ".toList ++ name ++ definition) :: rest

theorem redefines_of_unsaved {lines : List Text}
    (h : lines.filterMap (pragmaName? "push_macro".toList) = []) : Redefines lines := by
  rintro before name after rfl
  have hnone := List.filterMap_eq_nil_iff.mp h _ List.mem_append_cons_self
  rw [pragmaName?_eq_some_iff.mpr rfl] at hnone
  cases hnone

/-- What is redefined in two parts is redefined in the whole. -/
theorem Redefines.append {lines more : List Text} (h : Redefines lines) (hmore : Redefines more) :
    Redefines (lines ++ more) := by
  intro before name after hlines
  rcases List.append_eq_append_iff.mp hlines with ⟨front, rfl, hback⟩ | ⟨back, hfront, hback⟩
  · exact hmore front name after hback
  · -- the name is saved at the end of the first part or before it
    cases back with
    | nil => exact hmore [] name after hback.symm
    | cons first back =>
      obtain ⟨rfl, rfl⟩ := List.cons.inj hback
      obtain ⟨definition, rest, hdefinition, rfl⟩ := h before name back hfront
      exact ⟨definition, rest ++ more, hdefinition, rfl⟩

theorem Redefines.flatMap {fragments : List Fragment}
    (h : ∀ fragment ∈ fragments, Redefines fragment.lines) :
    Redefines (fragments.flatMap Fragment.lines) := by
  induction fragments with
  | nil => exact redefines_of_unsaved rfl
  | cons fragment fragments ih =>
    rw [List.flatMap_cons]
    exact (h fragment List.mem_cons_self).append
      (ih fun other hother => h other (List.mem_cons_of_mem _ hother))

/-- A name is saved, removed and defined anew, and nothing else is saved in these lines. -/
theorem redefines_cons {name definition : Text} {rest : List Text}
    (hdefinition : ∀ c, definition.head? = some c → isWord c = false)
    (hrest : rest.filterMap (pragmaName? "push_macro".toList) = []) :
    Redefines (pragmaLine "push_macro".toList name :: ("#undef ".toList ++ name) ::
      ("#define ".toList ++ name ++ definition) :: rest) := by
  intro before other after hlines
  cases before with
  | nil =>
    obtain ⟨hline, hafter⟩ := List.cons.inj hlines
    obtain rfl : name = other := by
      have hname := pragmaName?_eq_some_iff.mpr hline
      rwa [pragmaName?_eq_some_iff.mpr rfl, Option.some_inj] at hname
    exact ⟨definition, rest, hdefinition, hafter.symm⟩
  | cons first before =>
    have hunsaved : (("#undef ".toList ++ name) :: ("#define ".toList ++ name ++ definition) ::
        rest).filterMap (pragmaName? "push_macro".toList) = [] := by
      rw [List.filterMap_cons_none (pragmaName?_eq_none rfl),
        List.filterMap_cons_none (pragmaName?_eq_none rfl), hrest]
    exact redefines_of_unsaved hunsaved before other after (List.cons.inj hlines).2

/-- The lines of a fragment define anew what they save. -/
theorem redefines_lines {fragment : Fragment} (h : fragment.IsClean) :
    Redefines fragment.lines := by
  have hnames := @filterMap_pragmaName?_lines "push_macro".toList (by decide) fragment h
  cases fragment with
  | shadow name params expansion =>
    cases params with
    | none => exact redefines_cons (fun c hc => by cases hc; decide) rfl
    | some params =>
      exact redefines_cons (fun c hc => by cases hc; decide)
        (filterMap_pragmaName?_eq_nil (List.forall_mem_singleton.mpr rfl))
  | restore name =>
    have hnone : directiveName? "push_macro".toList (.command (.pop name)) = none :=
      (directiveName?_pop _ name).trans (if_neg (by decide))
    exact redefines_of_unsaved (hnames.trans (List.filterMap_cons_none hnone))
  | guardOpen guard => exact redefines_of_unsaved hnames
  | guardClose guard => exact redefines_of_unsaved hnames
  | assignment instanceName record field value => exact redefines_of_unsaved hnames
  | «alias» type name target => exact redefines_of_unsaved hnames
  | verbatim line => exact redefines_of_unsaved hnames

/-! ### The lines of the overlay -/

/-- The lines of an overlay are those of its fragments. -/
theorem lines_overlay {config : Config} (h : config.IsWellNamed) (source : Text) :
    Text.lines (Overlay.generate config (Scan.ofSource config source)).overlay
      = (Overlay.overlayFragments config (Scan.ofSource config source)).flatMap Fragment.lines :=
  (reads_overlayFragments h).lines_unlines (List.cons_ne_nil _ _)

/-- The lines of directives begin with a sharp, or with a blank where one goes on. -/
theorem head?_of_mem_lines : ∀ {fragment : Fragment}, fragment.directives ≠ [] →
    ∀ line ∈ fragment.lines, line.head? = some '#' ∨ line.head? = some ' '
  | .guardOpen _, _ =>
    List.forall_mem_cons.mpr ⟨.inl rfl, List.forall_mem_singleton.mpr (.inl rfl)⟩
  | .guardClose _, _ => List.forall_mem_singleton.mpr (.inl rfl)
  | .shadow _ none _, _ =>
    List.forall_mem_cons.mpr ⟨.inl rfl,
      List.forall_mem_cons.mpr ⟨.inl rfl, List.forall_mem_singleton.mpr (.inl rfl)⟩⟩
  | .shadow _ (some _) _, _ =>
    List.forall_mem_cons.mpr ⟨.inl rfl, List.forall_mem_cons.mpr ⟨.inl rfl,
      List.forall_mem_cons.mpr ⟨.inl rfl, List.forall_mem_singleton.mpr (.inr rfl)⟩⟩⟩
  | .restore _, _ => List.forall_mem_singleton.mpr (.inl rfl)
  | .assignment .., h => absurd rfl h
  | .alias .., h => absurd rfl h
  | .verbatim _, h => absurd rfl h

section Alias

variable {config : Config} (h : config.IsWellNamed)

include h

/-- The overlay is made of directives, the alias, the assignments of the records, and lines that
assign nothing. -/
theorem passed_of_mem_overlayFragments {scan : Scan} {fragment : Fragment}
    (hfragment : fragment ∈ Overlay.overlayFragments config scan) :
    fragment.directives ≠ [] ∨
    (fragment = Overlay.paramAliasFragment config ∧ config.paramArrayIdent ∈ scan.identifiers) ∨
    (∃ record ∈ scan.records, fragment ∈ recordAssignments config scan record) ∨
    (∃ line, fragment = .verbatim line ∧ '=' ∉ line) := by
  have hequals : ∀ {name : Text}, IsIdentifier name → '=' ∉ name :=
    fun h => h.not_mem (by decide) (by decide)
  have hempty : ∃ line, Fragment.verbatim [] = .verbatim line ∧ '=' ∉ line :=
    ⟨[], rfl, List.not_mem_nil⟩
  simp only [Overlay.overlayFragments, List.mem_append, List.mem_cons, List.not_mem_nil, or_false,
    List.mem_flatMap] at hfragment
  -- the parts of the overlay from the first to the last
  rcases hfragment with (((((rfl | rfl | rfl | rfl) | hassigned) | halias) | rfl) |
    ⟨name, _, rfl | rfl⟩) | (rfl | rfl | rfl | rfl)
  · exact .inl (List.cons_ne_nil _ _)
  · exact .inr (.inr (.inr hempty))
  · refine .inr (.inr (.inr ⟨_, rfl, ?_⟩))
    simp [hequals h.stateType, hequals h.stateInstance]
  · refine .inr (.inr (.inr ⟨_, rfl, ?_⟩))
    simp [hequals h.stateInitFn, hequals h.stateInstance]
  · exact .inr (.inr (.inl hassigned))
  · by_cases hparam : scan.isRelocated config.paramArrayIdent = true
    · rw [if_pos hparam, List.mem_cons, List.mem_singleton] at halias
      rcases halias with rfl | rfl
      · exact .inr (.inl ⟨rfl, List.contains_iff_mem.mp hparam⟩)
      · exact .inr (.inr (.inr hempty))
    · rw [if_neg hparam] at halias
      exact absurd halias List.not_mem_nil
  · exact .inr (.inr (.inr hempty))
  · exact .inl (List.cons_ne_nil _ _)
  · exact .inr (.inr (.inr hempty))
  · exact .inl (List.cons_ne_nil _ _)
  · exact .inr (.inr (.inr hempty))
  · exact .inl (List.cons_ne_nil _ _)
  · exact .inr (.inr (.inr hempty))

/-- The alias begins with the name of its type, and goes on with a blank or a star. -/
theorem exists_alias_eq :
    ∃ name c rest, IsIdentifier name ∧ (c = ' ' ∨ c = '*') ∧ '=' ∈ rest ∧
      (Overlay.paramAliasFragment config).render = name ++ c :: rest := by
  obtain ⟨name, stars, hname, hstars, htype⟩ := h.paramArrayType
  have htrim : Text.trimEnd config.paramArrayType = name ++ Text.trimEnd stars := by
    rw [htype, trimEnd_append_of_not_isBlank hname.isBlank_of_mem]
  let binding := config.paramArrayIdent ++ " = ".toList ++
    config.qualified config.paramArrayIdent ++ [';']
  have hequals : '=' ∈ binding := by simp [binding]
  have hrender : (Overlay.paramAliasFragment config).render
      = name ++ (Text.trimEnd stars ++
        ((if (Text.trimEnd config.paramArrayType).getLast? = some '*' then [] else [' ']) ++
          binding)) := by
    show Text.trimEnd config.paramArrayType ++
      (if (Text.trimEnd config.paramArrayType).getLast? = some '*' then [] else [' ']) ++
        config.paramArrayIdent ++ " = ".toList ++ config.qualified config.paramArrayIdent ++ [';']
      = _
    generalize (if (Text.trimEnd config.paramArrayType).getLast? = some '*' then []
      else [' '] : Text) = gap
    rw [htrim]
    simp only [binding, List.append_assoc]
  cases hend : Text.trimEnd stars with
  | nil =>
    -- without stars the type ends in its name, and a blank parts the two names
    have hlast : (Text.trimEnd config.paramArrayType).getLast? ≠ some '*' := by
      rw [htrim, hend, List.append_nil]
      exact getLast?_append_identifier hname rfl []
    rw [hend, if_neg hlast] at hrender
    exact ⟨name, ' ', binding, hname, .inl rfl, hequals, hrender⟩
  | cons c more =>
    have hmem : c ∈ stars := trimEnd_subset stars (hend ▸ List.mem_cons_self)
    rw [hend] at hrender
    exact ⟨name, c, _, hname, hstars c hmem,
      List.mem_append_right _ (List.mem_append_right _ hequals), hrender⟩

/-- No line of directives is the alias, which begins with a name. -/
theorem alias_ne_directive {fragment : Fragment} (hdirectives : fragment.directives ≠ [])
    {line : Text} (hline : line ∈ fragment.lines) :
    (Overlay.paramAliasFragment config).render ≠ line := by
  rintro rfl
  obtain ⟨c, rest, halias, hc⟩ := (isCode_alias (isClean_paramAliasFragment h)).begins
  have hhead := head?_of_mem_lines hdirectives _ hline
  rw [Overlay.paramAliasFragment, halias, List.head?_cons, Option.some_inj,
    Option.some_inj] at hhead
  rcases hhead with rfl | rfl
  · cases hc
  · cases hc

/-- No assignment is the alias: it goes on with a dot behind its first name. -/
theorem alias_ne_assignment (record field value : Text) :
    (Overlay.paramAliasFragment config).render
      ≠ (Fragment.assignment config.stateInstance record field value).render := by
  intro hsame
  obtain ⟨name, c, rest, hname, hc, _, halias⟩ := exists_alias_eq h
  have hword : ∀ d, (c :: rest).head? = some d → isWord d = false := by
    rintro d hd
    cases hd
    rcases hc with rfl | rfl
    · rfl
    · rfl
  -- both lines are read up to the end of their first names
  have hread := name?_append hname hword
  rw [← halias, hsame, Fragment.render_assignment,
    name?_append h.stateInstance fun d hd => by cases hd; rfl] at hread
  cases hread
  rcases hc with hc | hc
  · cases hc
  · cases hc

/-- **The alias** of the parameter array is a line of the overlay exactly if that is relocated. -/
theorem alias_mem_lines_iff {source : Text} :
    (Overlay.paramAliasFragment config).render
        ∈ Text.lines (Overlay.generate config (Scan.ofSource config source)).overlay ↔
      config.paramArrayIdent ∈ (Scan.ofSource config source).identifiers := by
  rw [lines_overlay h, List.mem_flatMap]
  constructor
  · rintro ⟨fragment, hfragment, hline⟩
    rcases passed_of_mem_overlayFragments h hfragment with hdirectives | ⟨_, hparam⟩ |
      ⟨_, _, hassigned⟩ | ⟨line, rfl, hplain⟩
    · exact absurd rfl (alias_ne_directive h hdirectives hline)
    · exact hparam
    · obtain ⟨_, _, rfl⟩ := List.mem_map.mp hassigned
      exact absurd (List.mem_singleton.mp hline) (alias_ne_assignment h _ _ _)
    · -- the other lines hold no sign of equality
      obtain ⟨name, c, rest, _, _, hequals, halias⟩ := exists_alias_eq h
      have hsame : (Overlay.paramAliasFragment config).render = line := List.mem_singleton.mp hline
      rw [← hsame, halias] at hplain
      exact absurd (List.mem_append_right _ (List.mem_cons_of_mem _ hequals)) hplain
  · intro hparam
    refine ⟨Overlay.paramAliasFragment config, ?_, List.mem_singleton.mpr rfl⟩
    have hrelocated : (Scan.ofSource config source).isRelocated config.paramArrayIdent = true :=
      List.contains_iff_mem.mpr hparam
    simp [Overlay.overlayFragments, hrelocated]

end Alias

/-! ### The order of shadows -/

/-- The names that some shadows save. -/
theorem filterMap_directiveName?_shadows (shadows : List (Text × Definition)) :
    ((shadows.flatMap fun shadow => shadowCommands shadow.1 shadow.2).map
        Preprocessor.Directive.command).filterMap (directiveName? "push_macro".toList)
      = shadows.map Prod.fst := by
  induction shadows with
  | nil => rfl
  | cons shadow shadows ih =>
    have hsave : directiveName? "push_macro".toList (.command (.push shadow.1)) = some shadow.1 :=
      (directiveName?_push _ _).trans (if_pos rfl)
    rw [List.flatMap_cons, List.map_append, List.filterMap_append, ih, List.map_cons]
    show [Preprocessor.Directive.command (.push shadow.1), .command (.undef shadow.1),
      .command (.define shadow.1 shadow.2)].filterMap _ ++ _ = _
    rw [List.filterMap_cons_some hsave]
    rfl

/-- The names that some restorations restore. -/
theorem filterMap_directiveName?_pops (names : List Text) :
    ((names.map Command.pop).map Preprocessor.Directive.command).filterMap
        (directiveName? "pop_macro".toList) = names := by
  induction names with
  | nil => rfl
  | cons name names ih =>
    have hrestore : directiveName? "pop_macro".toList (.command (.pop name)) = some name :=
      (directiveName?_pop _ _).trans (if_pos rfl)
    rw [List.map_cons, List.map_cons, List.filterMap_cons_some hrestore, ih]

section Mirrored

variable {config : Config} (h : config.IsWellNamed) {source : Text}

include h

/-- The overlay saves the names of its shadows, one after another. -/
theorem savedNames_overlay :
    savedNames (Overlay.generate config (Scan.ofSource config source)).overlay
      = Overlay.shadowed config (Scan.ofSource config source) ++ [config.entryMacro] := by
  have hword : IsIdentifier "push_macro".toList := by decide
  have hreads := @reads_overlayFragments config h source
  refine (hreads.pragmaNames_unlines (List.cons_ne_nil _ _) hword).trans ?_
  rw [← map_fst_overlayShadows, List.filterMap_append, List.filterMap_cons_none rfl, List.map_cons,
    List.filterMap_cons_none rfl, filterMap_directiveName?_shadows]
  exact List.append_nil _

/-- The cleanup restores the names of the shadows in the opposite order. -/
theorem restoredNames_cleanup :
    restoredNames (Overlay.generate config (Scan.ofSource config source)).cleanup
      = (Overlay.shadowed config (Scan.ofSource config source) ++ [config.entryMacro]).reverse := by
  have hword : IsIdentifier "pop_macro".toList := by decide
  have hreads := @reads_cleanupFragments config h source
  refine (hreads.pragmaNames_unlines (List.cons_ne_nil _ _) hword).trans ?_
  rw [← map_fst_overlayShadows, List.filterMap_append, List.filterMap_cons_none rfl, List.map_cons,
    List.filterMap_cons_none rfl, filterMap_directiveName?_pops]
  exact List.append_nil _

/-- Whatever the overlay saves, it removes and defines anew. -/
theorem redefines_overlay :
    Redefines (Text.lines (Overlay.generate config (Scan.ofSource config source)).overlay) := by
  rw [lines_overlay h]
  exact .flatMap fun fragment hfragment =>
    redefines_lines ((reads_overlayFragments h).clean fragment hfragment)

end Mirrored

/-- **The cleanup mirrors the overlay**: line by line, the overlay saves the relocated identifiers
but for the parameter array in the ascending order of their bytes, and the entry macro last; it
removes each of them in the next line and defines it anew behind that; the cleanup restores them in
the opposite order; and the parameter array has its alias exactly if it is relocated. -/
theorem cleanup_mirrors_overlay (config : Config) (h : config.IsWellNamed) (source : Text) :
    let scan := Scan.ofSource config source
    let texts := Overlay.generate config scan
    (∃ names, savedNames texts.overlay = names ++ [config.entryMacro] ∧
      (∀ name, name ∈ names ↔ name ∈ scan.identifiers ∧ name ≠ config.paramArrayIdent) ∧
      names.Pairwise fun s t => Text.bytes s < Text.bytes t) ∧
    Redefines (Text.lines texts.overlay) ∧
    restoredNames texts.cleanup = (savedNames texts.overlay).reverse ∧
    ((Overlay.paramAliasFragment config).render ∈ Text.lines texts.overlay ↔
      config.paramArrayIdent ∈ scan.identifiers) := by
  intro scan texts
  have hsaved : savedNames texts.overlay = Overlay.shadowed config scan ++ [config.entryMacro] :=
    savedNames_overlay h
  have hsorted : (Overlay.shadowed config scan).Pairwise fun s t => Text.bytes s < Text.bytes t :=
    (Text.pairwise_sort (nodup_eraseDups _)).filter _
  refine ⟨⟨_, hsaved, fun name => mem_shadowed, hsorted⟩, redefines_overlay h, ?_,
    alias_mem_lines_iff h⟩
  rw [hsaved]
  exact restoredNames_cleanup h

/-- A name that is no ASCII text, the parameter array, and the entry macro's name declared as an
identifier, which is saved twice. -/
theorem cleanup_mirrors_overlay_accented :
    let source :=
      "int aé;\nlong az;\ncob_field *cob_procedure_params;\nint cob_module_global_enter;".toList
    let texts := Overlay.generate {} (Scan.ofSource {} source)
    let entry := "cob_module_global_enter".toList
    ({} : Config).IsWellNamed ∧
      savedNames texts.overlay = [['a', 'z'], ['a', 'é'], entry, entry] ∧
      restoredNames texts.cleanup = [entry, entry, ['a', 'é'], ['a', 'z']] ∧
      "cob_field **cob_procedure_params = cobol_state.cob_procedure_params;".toList
        ∈ Text.lines texts.overlay := by
  intro source texts entry
  have hidentifiers : (Scan.ofSource {} source).identifiers
      = [['a', 'é'], ['a', 'z'], "cob_procedure_params".toList, entry] := by decide +kernel
  have hsort : Text.sort [['a', 'é'], ['a', 'z'], "cob_procedure_params".toList, entry]
      = [['a', 'z'], ['a', 'é'], entry, "cob_procedure_params".toList] :=
    Text.sort_eq_of_pairwise (by decide) (by decide)
  have hsaved : savedNames texts.overlay = [['a', 'z'], ['a', 'é'], entry, entry] := by
    rw [savedNames_overlay isWellNamed_default, Overlay.shadowed, Scan.sortedIdentifiers,
      hidentifiers, hsort]
    decide
  obtain ⟨_, _, hrestored, halias⟩ := cleanup_mirrors_overlay {} isWellNamed_default source
  rw [hsaved] at hrestored
  have hparam : ({} : Config).paramArrayIdent ∈ (Scan.ofSource {} source).identifiers := by
    rw [hidentifiers]
    decide
  have hline : (Overlay.paramAliasFragment {}).render
      = "cob_field **cob_procedure_params = cobol_state.cob_procedure_params;".toList := by
    decide +kernel
  exact ⟨isWellNamed_default, hsaved, hrestored, hline ▸ halias.mpr hparam⟩

end StateOverlay
