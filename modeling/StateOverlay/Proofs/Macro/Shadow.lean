/-
Shadowing does not leak.

The overlay shadows some names one after another, and the cleanup restores them in the opposite
order.  Saved definitions form a stack for each name, so that every restoration meets what the
shadow of its name saved, also if a name is shadowed twice.

* `Macros.shadow`, `Macros.shadowAll` — what shadows do to the macros;
* `Macros.applyAll_pops_shadowAll` — restoring in the opposite order takes all shadows back;
* `reads_overlayFragments`, `reads_cleanupFragments` — the fragments of the generated texts, with
  what they stand for;
* `directives_overlay`, `directives_cleanup` — the generated texts as commands in their guards;
* `shadowing_does_not_leak` — the macros within the shadows and behind them.
-/
import StateOverlay.Overlay
import StateOverlay.Proofs.Macro.Fragments
import StateOverlay.Proofs.Scan.Names

namespace StateOverlay

open Preprocessor

/-! ### Shadows -/

namespace Preprocessor.Macros

/-- The macros with a name shadowed by a definition. -/
def shadow (macros : Macros) (name : Text) (definition : Definition) : Macros :=
  { table := Function.update macros.table name (some definition)
    saved := Function.update macros.saved name (macros.table name :: macros.saved name) }

theorem applyAll_shadowCommands (macros : Macros) (name : Text) (definition : Definition) :
    macros.applyAll (shadowCommands name definition) = macros.shadow name definition := by
  show Macros.mk (Function.update (Function.update macros.table name none) name (some definition))
    _ = _
  rw [Function.update_idem]
  rfl

/-- Restoring a name takes its last shadow back. -/
theorem apply_pop_shadow (macros : Macros) (name : Text) (definition : Definition) :
    (macros.shadow name definition).apply (.pop name) = macros := by
  -- what the shadow saved lies on top
  have hsaved : (macros.shadow name definition).saved name
      = macros.table name :: macros.saved name := Function.update_self ..
  rw [Macros.apply, hsaved]
  ext1
  · show Function.update (Function.update macros.table name _) name (macros.table name) = _
    rw [Function.update_idem, Function.update_eq_self]
  · show Function.update (Function.update macros.saved name _) name (macros.saved name) = _
    rw [Function.update_idem, Function.update_eq_self]

/-- A definition and the shadow of another name can change places. -/
theorem apply_define_shadow (macros : Macros) {name other : Text} (h : other ≠ name)
    (definition replacement : Definition) :
    (macros.shadow name definition).apply (.define other replacement)
      = (macros.apply (.define other replacement)).shadow name definition := by
  have hname : (macros.apply (.define other replacement)).table name = macros.table name :=
    Function.update_of_ne h.symm ..
  rw [shadow, shadow, hname]
  ext1
  · exact Function.update_comm h.symm ..
  · rfl

/-- The macros with some names shadowed, one after another. -/
def shadowAll (macros : Macros) (shadows : List (Text × Definition)) : Macros :=
  shadows.foldl (fun macros shadow => macros.shadow shadow.1 shadow.2) macros

theorem shadowAll_cons (macros : Macros) (first : Text × Definition)
    (shadows : List (Text × Definition)) :
    macros.shadowAll (first :: shadows) = (macros.shadow first.1 first.2).shadowAll shadows := rfl

theorem shadowAll_append (macros : Macros) (shadows more : List (Text × Definition)) :
    macros.shadowAll (shadows ++ more) = (macros.shadowAll shadows).shadowAll more :=
  List.foldl_append

theorem applyAll_shadows (shadows : List (Text × Definition)) (macros : Macros) :
    macros.applyAll (shadows.flatMap fun shadow => shadowCommands shadow.1 shadow.2)
      = macros.shadowAll shadows := by
  induction shadows generalizing macros with
  | nil => rfl
  | cons first shadows ih =>
    rw [List.flatMap_cons, applyAll_append, applyAll_shadowCommands, ih, shadowAll_cons]

/-- **Restoring in the opposite order** takes all shadows back. -/
theorem applyAll_pops_shadowAll (shadows : List (Text × Definition)) (macros : Macros) :
    (macros.shadowAll shadows).applyAll ((shadows.map Prod.fst).reverse.map .pop) = macros := by
  induction shadows generalizing macros with
  | nil => rfl
  | cons first shadows ih =>
    rw [shadowAll_cons, List.map_cons, List.reverse_cons, List.map_append, applyAll_append, ih]
    exact apply_pop_shadow macros first.1 first.2

theorem apply_define_shadowAll {name : Text} {shadows : List (Text × Definition)}
    (h : name ∉ shadows.map Prod.fst) (replacement : Definition) (macros : Macros) :
    (macros.shadowAll shadows).apply (.define name replacement)
      = (macros.apply (.define name replacement)).shadowAll shadows := by
  induction shadows generalizing macros with
  | nil => rfl
  | cons first shadows ih =>
    rw [List.map_cons, List.mem_cons, not_or] at h
    rw [shadowAll_cons, ih h.2, apply_define_shadow macros h.1, shadowAll_cons]

/-- Names that are not shadowed keep their definitions and what was saved of them. -/
theorem shadowAll_of_not_mem {name : Text} {shadows : List (Text × Definition)}
    (h : name ∉ shadows.map Prod.fst) (macros : Macros) :
    (macros.shadowAll shadows).table name = macros.table name ∧
      (macros.shadowAll shadows).saved name = macros.saved name := by
  induction shadows generalizing macros with
  | nil => exact ⟨rfl, rfl⟩
  | cons first shadows ih =>
    rw [List.map_cons, List.mem_cons, not_or] at h
    obtain ⟨htable, hsaved⟩ := ih h.2 (macros.shadow first.1 first.2)
    rw [shadowAll_cons, htable, hsaved]
    exact ⟨Function.update_of_ne h.1 .., Function.update_of_ne h.1 ..⟩

/-- A name that has only one definition among the shadows has it behind them. -/
theorem table_shadowAll_of_mem {name : Text} {definition : Definition}
    {shadows : List (Text × Definition)} (hmem : name ∈ shadows.map Prod.fst)
    (h : ∀ shadow ∈ shadows, shadow.1 = name → shadow.2 = definition) (macros : Macros) :
    (macros.shadowAll shadows).table name = some definition := by
  induction shadows generalizing macros with
  | nil => exact absurd hmem List.not_mem_nil
  | cons first shadows ih =>
    rw [shadowAll_cons]
    -- a later shadow of the name would hide this one
    by_cases hlater : name ∈ shadows.map Prod.fst
    · exact ih hlater (fun shadow hshadow => h shadow (List.mem_cons_of_mem _ hshadow)) _
    · have hfirst : first.1 = name := by
        rw [List.map_cons, List.mem_cons] at hmem
        exact (hmem.resolve_right hlater).symm
      rw [(shadowAll_of_not_mem hlater _).1, ← h first List.mem_cons_self hfirst, ← hfirst]
      exact Function.update_self ..

end Preprocessor.Macros

/-! ### The generated texts -/

/-- A configuration whose names are identifiers; the type of the parameter array ends in spaces and
stars, and what is added to the name of the entry macro breaks no line. -/
structure Config.IsWellNamed (config : Config) : Prop where
  stateType : IsIdentifier config.stateType
  stateInstance : IsIdentifier config.stateInstance
  stateInitFn : IsIdentifier config.stateInitFn
  recordFields : ∀ field ∈ config.recordFields.positional, IsIdentifier field
  paramArrayIdent : IsIdentifier config.paramArrayIdent
  paramArrayType : ∃ name stars, IsIdentifier name ∧ (∀ c ∈ stars, c = ' ' ∨ c = '*') ∧
    config.paramArrayType = name ++ stars
  entryMacro : IsIdentifier config.entryMacro
  entryMacroParams : ∀ param ∈ config.entryMacroParams, IsIdentifier param
  entryStateSuffix : '\n' ∉ config.entryStateSuffix
  overlayGuard : IsIdentifier config.overlayGuard
  cleanupGuard : IsIdentifier config.cleanupGuard

/-- The definition by which a relocated identifier leads into the container. -/
def identifierDefinition (config : Config) (name : Text) : Definition :=
  { body := ['('] ++ config.qualified name ++ [')'] }

/-- The definition by which the entry macro passes the container on. -/
def entryDefinition (config : Config) : Definition :=
  { params := some config.entryMacroParams
    body := config.entryStateFn ++ ['('] ++
      [',', ' '].intercalate (('&' :: config.stateInstance) :: config.entryMacroParams) ++ [')'] }

/-- The shadows that the overlay sets, in their order. -/
def overlayShadows (config : Config) (scan : Scan) : List (Text × Definition) :=
  (Overlay.shadowed config scan).map (fun name => (name, identifierDefinition config name)) ++
    [(config.entryMacro, entryDefinition config)]

theorem map_fst_overlayShadows (config : Config) (scan : Scan) :
    (overlayShadows config scan).map Prod.fst
      = Overlay.shadowed config scan ++ [config.entryMacro] := by
  rw [overlayShadows, List.map_append, List.map_map]
  exact congrArg (· ++ [config.entryMacro]) (List.map_id _)

theorem mem_shadowed {config : Config} {scan : Scan} {name : Text} :
    name ∈ Overlay.shadowed config scan ↔
      name ∈ scan.identifiers ∧ name ≠ config.paramArrayIdent := by
  rw [Overlay.shadowed, List.mem_filter, Scan.sortedIdentifiers, Text.sort, List.mem_mergeSort,
    bne_iff_ne]

theorem isIdentifier_of_mem_shadowed {config : Config} {source name : Text}
    (h : name ∈ Overlay.shadowed config (Scan.ofSource config source)) : IsIdentifier name :=
  isIdentifier_of_mem_identifiers (mem_shadowed.mp h).1

section Clean

variable {config : Config} (h : config.IsWellNamed) {source : Text}

include h

theorem feed_qualified {name : Text} (hname : '\n' ∉ name) : '\n' ∉ config.qualified name :=
  List.not_mem_append (List.not_mem_append h.stateInstance.feed (by decide)) hname

theorem isClean_identifierShadow {name : Text} (hname : IsIdentifier name) :
    (Overlay.identifierShadow config name).IsClean := by
  have hlast : (['('] ++ config.qualified name ++ [')']).getLast? = some ')' := List.getLast?_concat
  refine ⟨hname, fun param hparam => absurd hparam List.not_mem_nil, ?_, ?_, hlast⟩
  · exact List.not_mem_append
      (List.not_mem_append (by decide) (feed_qualified h hname.feed)) (by decide)
  · apply trim_eq_self
    · intro c hc
      cases hc
      decide
    · intro c hc
      cases hlast.symm.trans hc
      decide

theorem isClean_entryShadow : (Overlay.entryShadow config).IsClean := by
  have hlast : (entryDefinition config).body.getLast? = some ')' := List.getLast?_concat
  refine ⟨h.entryMacro, h.entryMacroParams, ?_, ?_, hlast⟩
  · have harguments : '\n' ∉
        [',', ' '].intercalate (('&' :: config.stateInstance) :: config.entryMacroParams) := by
      refine not_mem_intercalate (by decide) fun argument hargument => ?_
      rcases List.mem_cons.mp hargument with rfl | hparam
      · rw [List.mem_cons, not_or]
        exact ⟨by decide, h.stateInstance.feed⟩
      · exact (h.entryMacroParams argument hparam).feed
    have hentry : '\n' ∉ config.entryStateFn :=
      List.not_mem_append h.entryMacro.feed h.entryStateSuffix
    exact List.not_mem_append
      (List.not_mem_append (List.not_mem_append hentry (by decide)) harguments) (by decide)
  · apply trim_eq_self
    · -- the first character is that of the entry macro's name
      intro c hc
      obtain ⟨first, rest, hname, hfirst, _⟩ := h.entryMacro.exists_cons
      rw [Config.entryStateFn, hname] at hc
      cases hc
      exact isBlank_of_isNameStart hfirst
    · intro c hc
      cases hlast.symm.trans hc
      decide

theorem isClean_paramAliasFragment : (Overlay.paramAliasFragment config).IsClean := by
  obtain ⟨name, stars, hname, hstars, htype⟩ := h.paramArrayType
  refine ⟨?_, h.paramArrayIdent.feed, feed_qualified h h.paramArrayIdent.feed⟩
  rw [htype]
  refine hname.isCode.append fun hfeed => ?_
  rcases hstars _ hfeed with hspace | hstar
  · exact absurd hspace (by decide)
  · exact absurd hstar (by decide)

/-- A value led into the container breaks no line that it did not break before. -/
theorem feed_relocatedValue (scan : Scan) {value : Text} (hvalue : '\n' ∉ value) :
    '\n' ∉ relocatedValue config scan value := by
  unfold relocatedValue
  split
  · exact feed_qualified h hvalue
  · split
    · split
      · rw [List.mem_cons, not_or] at hvalue ⊢
        exact ⟨hvalue.1, feed_qualified h hvalue.2⟩
      · exact hvalue
    · exact hvalue

theorem isClean_recordAssignments (scan : Scan) {record : Record} (hrecord : record.IsClean) :
    ∀ f ∈ recordAssignments config scan record, f.IsClean := by
  intro f hf
  obtain ⟨⟨⟨field, value⟩, position⟩, hmem, rfl⟩ := List.mem_map.mp hf
  have hpair := List.fst_mem_of_mem_zipIdx (List.mem_filter.mp hmem).1
  obtain ⟨hfield, hvalue⟩ := List.of_mem_zip hpair
  exact ⟨h.stateInstance.isCode, hrecord.name.feed, (h.recordFields field hfield).feed,
    feed_relocatedValue h scan (hrecord.values value hvalue)⟩

/-- The fragments of the overlay are read back: they define its guard and set the shadows. -/
theorem reads_overlayFragments :
    Reads (Overlay.overlayFragments config (Scan.ofSource config source))
      (.ifndef config.overlayGuard ::
        (.define config.overlayGuard {} ::
          (overlayShadows config (Scan.ofSource config source)).flatMap
            fun shadow => shadowCommands shadow.1 shadow.2).map .command ++ [.endif]) := by
  have hspace : '\n' ∉ [' '] := by decide
  have hopen : '\n' ∉ "(&".toList := by decide
  have hdeclaration : IsCode (config.stateType ++ [' '] ++ config.stateInstance ++ [';']) :=
    ((h.stateType.isCode.append hspace).append h.stateInstance.feed).append (by decide)
  have hinit : IsCode (config.stateInitFn ++ "(&".toList ++ config.stateInstance ++ ");".toList) :=
    ((h.stateInitFn.isCode.append hopen).append h.stateInstance.feed).append (by decide)
  have hinitEnd : (config.stateInitFn ++ "(&".toList ++ config.stateInstance ++
      ");".toList).getLast? = some ';' := getLast?_append_of_eq_some (by decide)
  have hopening : Reads
      [.guardOpen config.overlayGuard, .verbatim [],
        .verbatim (config.stateType ++ [' '] ++ config.stateInstance ++ [';']),
        .verbatim (config.stateInitFn ++ "(&".toList ++ config.stateInstance ++ ");".toList)]
      [.ifndef config.overlayGuard, .command (.define config.overlayGuard {})] :=
    .cons h.overlayGuard (.cons (.inl rfl) (.cons (.inr ⟨hdeclaration, List.getLast?_concat⟩)
      (.cons (.inr ⟨hinit, hinitEnd⟩) .nil)))
  -- of the fragments between the guard and the shadows none is a directive
  have hrecords : Reads ((Scan.ofSource config source).records.flatMap
      (recordAssignments config (Scan.ofSource config source))) [] := by
    apply Reads.of_passed
    intro f hf
    obtain ⟨record, hrecord, hf⟩ := List.mem_flatMap.mp hf
    refine ⟨isClean_recordAssignments h _ (isClean_of_mem_records hrecord) f hf, ?_⟩
    obtain ⟨assignment, _, rfl⟩ := List.mem_map.mp hf
    rfl
  have halias : Reads (if (Scan.ofSource config source).isRelocated config.paramArrayIdent then
      [Overlay.paramAliasFragment config, .verbatim []] else []) [] := by
    split
    · exact .cons (isClean_paramAliasFragment h) (.cons (.inl rfl) .nil)
    · exact .nil
  have hempty : Reads [.verbatim []] [] := .cons (.inl rfl) .nil
  have hshadows : Reads ((Overlay.shadowed config (Scan.ofSource config source)).flatMap
        fun name => [Overlay.identifierShadow config name, .verbatim []])
      ((Overlay.shadowed config (Scan.ofSource config source)).flatMap
        fun name => (shadowCommands name (identifierDefinition config name)).map .command) := by
    apply Reads.flatMap
    intro name hname
    exact .cons (isClean_identifierShadow h (isIdentifier_of_mem_shadowed hname))
      (.cons (.inl rfl) .nil)
  have hclosing : Reads
      [Overlay.entryShadow config, .verbatim [], .guardClose config.overlayGuard, .verbatim []]
      ((shadowCommands config.entryMacro (entryDefinition config)).map .command ++ [.endif]) :=
    .cons (isClean_entryShadow h)
      (.cons (.inl rfl) (.cons h.overlayGuard.feed (.cons (.inl rfl) .nil)))
  have hall := ((((hopening.append hrecords).append halias).append hempty).append hshadows).append
    hclosing
  refine ⟨hall.clean, hall.found.trans ?_⟩
  rw [overlayShadows, List.flatMap_append, List.flatMap_map, List.map_cons, List.map_append,
    List.map_flatMap]
  simp

/-- The overlay defines its guard and sets the shadows. -/
theorem directives_overlay :
    directives (Overlay.generate config (Scan.ofSource config source)).overlay
      = .ifndef config.overlayGuard ::
          (.define config.overlayGuard {} ::
            (overlayShadows config (Scan.ofSource config source)).flatMap
              fun shadow => shadowCommands shadow.1 shadow.2).map .command ++ [.endif] :=
  (reads_overlayFragments h).directives_unlines

/-- The fragments of the cleanup are read back: they define its guard and restore the shadowed names
in the opposite order. -/
theorem reads_cleanupFragments :
    Reads (Overlay.cleanupFragments config (Scan.ofSource config source))
      (.ifndef config.cleanupGuard ::
        (.define config.cleanupGuard {} ::
          ((overlayShadows config (Scan.ofSource config source)).map Prod.fst).reverse.map
            .pop).map .command ++ [.endif]) := by
  have hopening : Reads
      [.guardOpen config.cleanupGuard, .verbatim [], .restore config.entryMacro, .verbatim []]
      [.ifndef config.cleanupGuard, .command (.define config.cleanupGuard {}),
        .command (.pop config.entryMacro)] :=
    .cons h.cleanupGuard (.cons (.inl rfl) (.cons h.entryMacro (.cons (.inl rfl) .nil)))
  have hrestores : Reads
      ((Overlay.shadowed config (Scan.ofSource config source)).reverse.map .restore)
      ((Overlay.shadowed config (Scan.ofSource config source)).reverse.map
        fun name => .command (.pop name)) := by
    rw [List.map_eq_flatMap, List.map_eq_flatMap]
    apply Reads.flatMap
    intro name hname
    exact .cons (isIdentifier_of_mem_shadowed (List.mem_reverse.mp hname)) .nil
  have hclosing : Reads [.verbatim [], .guardClose config.cleanupGuard, .verbatim []] [.endif] :=
    .cons (.inl rfl) (.cons h.cleanupGuard.feed (.cons (.inl rfl) .nil))
  have hall := (hopening.append hrestores).append hclosing
  refine ⟨hall.clean, hall.found.trans ?_⟩
  rw [map_fst_overlayShadows, List.reverse_append]
  simp

/-- The cleanup defines its guard and restores the shadowed names in the opposite order. -/
theorem directives_cleanup :
    directives (Overlay.generate config (Scan.ofSource config source)).cleanup
      = .ifndef config.cleanupGuard ::
          (.define config.cleanupGuard {} ::
            ((overlayShadows config (Scan.ofSource config source)).map Prod.fst).reverse.map
              .pop).map .command ++ [.endif] :=
  (reads_cleanupFragments h).directives_unlines

/-- The overlay sets its shadows if its guard is not defined. -/
theorem process_overlay {initial : Macros} (hguard : initial.table config.overlayGuard = none) :
    process (Overlay.generate config (Scan.ofSource config source)).overlay initial
      = (initial.apply (.define config.overlayGuard {})).shadowAll
          (overlayShadows config (Scan.ofSource config source)) := by
  rw [process_of_guarded (directives_overlay h), hguard, Macros.applyAll_cons,
    Macros.applyAll_shadows]
  rfl

/-- The cleanup takes the shadows back if its guard is not defined. -/
theorem process_cleanup {macros opened : Macros}
    (hshadows : macros = opened.shadowAll (overlayShadows config (Scan.ofSource config source)))
    (hother : config.cleanupGuard ∉
      (overlayShadows config (Scan.ofSource config source)).map Prod.fst)
    (hguard : opened.table config.cleanupGuard = none) :
    process (Overlay.generate config (Scan.ofSource config source)).cleanup macros
      = opened.apply (.define config.cleanupGuard {}) := by
  have hundefined : macros.table config.cleanupGuard = none := by
    rw [hshadows, (Macros.shadowAll_of_not_mem hother opened).1, hguard]
  rw [process_of_guarded (directives_cleanup h), hundefined, Macros.applyAll_cons, hshadows,
    Macros.apply_define_shadowAll hother, Macros.applyAll_pops_shadowAll]
  rfl

end Clean

/-- Behind its own shadow a relocated identifier leads into the container. -/
theorem table_overlayShadows {config : Config} {scan : Scan} {name : Text}
    (hname : name ∈ Overlay.shadowed config scan) (hentry : name ≠ config.entryMacro)
    (macros : Macros) :
    (macros.shadowAll (overlayShadows config scan)).table name
      = some (identifierDefinition config name) := by
  apply Macros.table_shadowAll_of_mem
  · rw [map_fst_overlayShadows]
    exact List.mem_append_left _ hname
  · intro shadow hshadow hsame
    rcases List.mem_append.mp hshadow with hshadow | hshadow
    · obtain ⟨other, _, rfl⟩ := List.mem_map.mp hshadow
      exact congrArg (identifierDefinition config) hsame
    · rw [List.mem_singleton.mp hshadow] at hsame
      exact absurd hsame.symm hentry

/-- The entry macro is shadowed last. -/
theorem table_overlayShadows_entryMacro (config : Config) (scan : Scan) (macros : Macros) :
    (macros.shadowAll (overlayShadows config scan)).table config.entryMacro
      = some (entryDefinition config) := by
  rw [overlayShadows, Macros.shadowAll_append]
  exact Function.update_self ..

/-- **Shadowing does not leak**: within the shadows every relocated identifier leads into the
container, the entry macro passes the container on, and nothing else is changed but the overlay's
guard; behind the cleanup all that is left of them are the two guards. -/
theorem shadowing_does_not_leak (config : Config) (h : config.IsWellNamed) (source : Text)
    (initial : Macros) (hoverlay : initial.table config.overlayGuard = none)
    (hcleanup : initial.table config.cleanupGuard = none)
    (hguards : config.cleanupGuard ≠ config.overlayGuard)
    (hentry : config.cleanupGuard ≠ config.entryMacro)
    (hshadowed : config.cleanupGuard ∉ Overlay.shadowed config (Scan.ofSource config source)) :
    let scan := Scan.ofSource config source
    let texts := Overlay.generate config scan
    let within := process texts.overlay initial
    let after := process texts.cleanup within
    (∀ name ∈ scan.identifiers, name ≠ config.paramArrayIdent → name ≠ config.entryMacro →
      within.table name
        = some { params := none, body := ['('] ++ config.stateInstance ++ ['.'] ++ name ++ [')'] }) ∧
    within.table config.entryMacro
      = some
          { params := some config.entryMacroParams
            body := config.entryStateFn ++ ['('] ++ [',', ' '].intercalate
              (('&' :: config.stateInstance) :: config.entryMacroParams) ++ [')'] } ∧
    (∀ name ∉ Overlay.shadowed config scan, name ≠ config.entryMacro →
      within.saved name = initial.saved name ∧
        within.table name = Function.update initial.table config.overlayGuard (some {}) name) ∧
    after.saved = initial.saved ∧
    after.table = Function.update (Function.update initial.table config.overlayGuard (some {}))
      config.cleanupGuard (some {}) := by
  intro scan texts within after
  have hcleanupShadows : config.cleanupGuard ∉ (overlayShadows config scan).map Prod.fst := by
    rw [map_fst_overlayShadows, List.mem_append, List.mem_singleton, not_or]
    exact ⟨hshadowed, hentry⟩
  -- the overlay opens its own guard, and nobody defines that of the cleanup
  let opened := initial.apply (.define config.overlayGuard {})
  have hopened : opened.table config.cleanupGuard = none := by
    rw [← hcleanup]
    exact Function.update_of_ne hguards ..
  have hwithin : within = opened.shadowAll (overlayShadows config scan) :=
    process_overlay h hoverlay
  have hafter : after = opened.apply (.define config.cleanupGuard {}) :=
    process_cleanup h hwithin hcleanupShadows hopened
  refine ⟨?_, ?_, ?_, ?_, ?_⟩
  · intro name hname hparam hother
    rw [hwithin, table_overlayShadows (mem_shadowed.mpr ⟨hname, hparam⟩) hother]
    simp only [identifierDefinition, Config.qualified, List.append_assoc]
  · rw [hwithin]
    exact table_overlayShadows_entryMacro config scan opened
  · intro name hname hother
    have hmem : name ∉ (overlayShadows config scan).map Prod.fst := by
      rw [map_fst_overlayShadows, List.mem_append, List.mem_singleton, not_or]
      exact ⟨hname, hother⟩
    obtain ⟨htable, hsaved⟩ := Macros.shadowAll_of_not_mem hmem opened
    rw [hwithin, htable, hsaved]
    exact ⟨rfl, rfl⟩
  · rw [hafter]
    rfl
  · rw [hafter]
    rfl

/-- The default names are well formed. -/
theorem isWellNamed_default : ({} : Config).IsWellNamed where
  stateType := by decide
  stateInstance := by decide
  stateInitFn := by decide
  recordFields := by decide
  paramArrayIdent := by decide
  paramArrayType := ⟨"cob_field".toList, [' ', '*', '*'], by decide, by simp, by decide⟩
  entryMacro := by decide
  entryMacroParams := by decide
  entryStateSuffix := by decide
  overlayGuard := by decide
  cleanupGuard := by decide

/-- A name that was defined before, and the entry macro's name declared as an identifier. -/
theorem shadowing_does_not_leak_entry :
    let source := "static int b_8;\nint cob_module_global_enter;\n".toList
    let initial : Macros :=
      { table := fun name => if name = "b_8".toList then some { body := ['8'] } else none
        saved := fun _ => [none] }
    initial.table ({} : Config).overlayGuard = none ∧
      initial.table ({} : Config).cleanupGuard = none ∧
      ({} : Config).cleanupGuard ∉ Overlay.shadowed {} (Scan.ofSource {} source) ∧
      ∃ within after,
        within = process (Overlay.generate {} (Scan.ofSource {} source)).overlay initial ∧
        after = process (Overlay.generate {} (Scan.ofSource {} source)).cleanup within ∧
        within.table "b_8".toList = some { body := "(cobol_state.b_8)".toList } ∧
        after.table "b_8".toList = some { body := ['8'] } ∧
        after.table "cob_module_global_enter".toList = none ∧ after.saved = initial.saved := by
  intro source initial
  have hoverlay : initial.table ({} : Config).overlayGuard = none := by decide
  have hcleanup : initial.table ({} : Config).cleanupGuard = none := by decide
  have hidentifiers : (Scan.ofSource {} source).identifiers
      = ["b_8".toList, ({} : Config).entryMacro] := by decide +kernel
  have hshadowed : ({} : Config).cleanupGuard ∉ Overlay.shadowed {} (Scan.ofSource {} source) := by
    rw [mem_shadowed, hidentifiers]
    decide
  have hname : "b_8".toList ∈ (Scan.ofSource {} source).identifiers := by
    rw [hidentifiers]
    exact List.mem_cons_self
  obtain ⟨hwithin, _, _, hsaved, htable⟩ := shadowing_does_not_leak {} isWellNamed_default source
    initial hoverlay hcleanup (by decide) (by decide) hshadowed
  refine ⟨hoverlay, hcleanup, hshadowed, _, _, rfl, rfl, ?_, ?_, ?_, hsaved⟩
  · rw [hwithin _ hname (by decide) (by decide)]
    decide
  · rw [htable]
    decide
  · rw [htable]
    decide

end StateOverlay
