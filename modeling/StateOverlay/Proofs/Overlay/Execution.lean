/-
What the assignments of an overlay leave in the container.

The overlay assigns to the fields of the container, one line after another, so a field holds the
last value assigned to it.  A position of a record that gives no value has no line: it is left to
the zero that the container began with.  But where records of one name stand on several lines, as in
the branches of a conditional, an earlier line may have been there first.

* `readAssignment?_eq_some_iff` — an assignment is read in a line exactly if the line is made so;
* `Container.foldl_assign` — a field holds the last value that is assigned to it;
* `assignments_overlay` — the assignments in the lines of an overlay are those of its records;
* `assignments_keep_last_given` — a field holds the last value that a record of its name gives,
  which is what the last such record says if that one gives a value, or if none does;
* `assignments_keep_earlier_branch` — otherwise the value of an earlier record stays.
-/
import Mathlib.Data.List.Induction
import Mathlib.Logic.Function.Basic
import StateOverlay.Proofs.Macro.Symmetry
import StateOverlay.Proofs.Overlay.Assignments

namespace StateOverlay

/-! ### Assignments in lines -/

/-- A value assigned to a field of a record in the container. -/
structure Assignment where
  record : Text
  field : Text
  value : Text
deriving DecidableEq

/-- Reads a line that assigns to a field of a record in a container. -/
def readAssignment? (instanceName line : Text) : Option Assignment := do
  let line ← (instanceName ++ ['.']).isPrefixOf? line
  let (record, line) ← Text.name? line
  let line ← ['.'].isPrefixOf? line
  let (field, line) ← Text.name? line
  let value ← enclosed? " = ".toList [';'] line
  return { record, field, value }

/-- An assignment is read in a line exactly if the line is made so, with identifiers for its names.
-/
theorem readAssignment?_eq_some_iff {instanceName line : Text} {assigned : Assignment} :
    readAssignment? instanceName line = some assigned ↔
      line = (Fragment.assignment instanceName assigned.record assigned.field
          assigned.value).render ∧
        IsIdentifier assigned.record ∧ IsIdentifier assigned.field := by
  rw [Fragment.render_assignment]
  simp only [readAssignment?, Option.bind_eq_bind, Option.bind_eq_some_iff, Prod.exists,
    isPrefixOf?_eq_some_iff, enclosed?_eq_some_iff]
  constructor
  · rintro ⟨_, rfl, record, _, hrecord, _, rfl, field, _, hfield, value, rfl, hassigned⟩
    obtain ⟨hrecordName, rfl⟩ := isIdentifier_of_name? hrecord
    obtain ⟨hfieldName, hrest⟩ := isIdentifier_of_name? hfield
    cases hassigned
    rw [hrest]
    simp only [List.append_assoc, List.cons_append, List.nil_append]
    exact ⟨trivial, hrecordName, hfieldName⟩
  · rintro ⟨rfl, hrecord, hfield⟩
    let binding := " = ".toList ++ assigned.value ++ [';']
    have hrecordRead : Text.name? (assigned.record ++ '.' :: (assigned.field ++ binding))
        = some (assigned.record, '.' :: (assigned.field ++ binding)) :=
      name?_append hrecord fun c hc => by cases hc; rfl
    have hfieldRead : Text.name? (assigned.field ++ binding) = some (assigned.field, binding) :=
      name?_append hfield fun c hc => by cases hc; rfl
    refine ⟨_, ?_, _, _, hrecordRead, _, rfl, _, _, hfieldRead, _, rfl, rfl⟩
    simp only [binding, List.append_assoc, List.cons_append, List.nil_append]

theorem readAssignment?_eq_none {instanceName line : Text}
    (h : ∀ record field value,
      line ≠ (Fragment.assignment instanceName record field value).render) :
    readAssignment? instanceName line = none := by
  rw [Option.eq_none_iff_forall_ne_some]
  intro assigned hassigned
  exact h _ _ _ (readAssignment?_eq_some_iff.mp hassigned).1

/-! ### Containers -/

/-- The values in a container, by the name of a record and that of a field. -/
abbrev Container (α : Type) : Type := Text × Text → α

namespace Container

variable {α : Type}

/-- A container after an assignment, where texts have a meaning as values. -/
def assign (meaning : Text → α) (container : Container α) (assigned : Assignment) : Container α :=
  Function.update container (assigned.record, assigned.field) (meaning assigned.value)

/-- A container after the assignments in the lines of a text, one after another. -/
def execute (meaning : Text → α) (instanceName text : Text) (container : Container α) :
    Container α :=
  ((Text.lines text).filterMap (readAssignment? instanceName)).foldl (assign meaning) container

/-- A field holds the last value that is assigned to it, or what it held before. -/
theorem foldl_assign (meaning : Text → α) (assignments : List Assignment)
    (container : Container α) (record field : Text) :
    assignments.foldl (assign meaning) container (record, field) =
      (assignments.filter fun assigned =>
        assigned.record = record ∧ assigned.field = field).getLast?.elim
          (container (record, field)) fun assigned => meaning assigned.value := by
  induction assignments using List.reverseRecOn with
  | nil => rfl
  | append_singleton assignments assigned ih =>
    rw [List.foldl_concat, List.filter_append, assign]
    by_cases hhere : assigned.record = record ∧ assigned.field = field
    · obtain ⟨rfl, rfl⟩ := hhere
      rw [Function.update_self, List.filter_singleton, decide_eq_true ⟨rfl, rfl⟩, cond_true,
        List.getLast?_concat]
      rfl
    · have hother : (record, field) ≠ (assigned.record, assigned.field) := by
        rintro ⟨rfl, rfl⟩
        exact hhere ⟨rfl, rfl⟩
      rw [Function.update_of_ne hother, ih, List.filter_singleton, decide_eq_false hhere,
        cond_false, List.append_nil]

end Container

/-! ### The assignments of an overlay -/

/-- The assignment that a fragment stands for. -/
def Fragment.assignment? : Fragment → Option Assignment
  | .assignment _ record field value => some { record, field, value }
  | _ => none

/-- The value that a record gives for a position: it is there and not empty, and behind the first
position it is no null pointer constant. -/
def Record.given? (record : Record) (position : Nat) : Option Text :=
  record.rawValues[position]?.filter fun value =>
    value ≠ [] ∧ (0 < position → value ≠ ['0'] ∧ value ≠ "NULL".toList)

/-- The positions of a record, each with its field. -/
def Config.places (config : Config) : List (Nat × Text) :=
  [(0, config.recordFields.size), (1, config.recordFields.data), (2, config.recordFields.attr)]

/-- The assignment to the field of a position, if a record gives a value for it. -/
def Record.assignmentAt? (config : Config) (scan : Scan) (record : Record) (place : Nat × Text) :
    Option Assignment :=
  (record.given? place.1).map fun value =>
    { record := record.name, field := place.2, value := relocatedValue config scan value }

/-- A record is assigned the values that it gives. -/
theorem filterMap_assignment?_recordAssignments (config : Config) (scan : Scan) (record : Record) :
    (recordAssignments config scan record).filterMap Fragment.assignment?
      = config.places.filterMap (record.assignmentAt? config scan) := by
  rw [recordAssignments_eq, List.filterMap_filterMap]
  apply List.filterMap_congr
  rintro ⟨position, field⟩ _
  dsimp only
  rw [not_isLeftToInit_eq, Record.assignmentAt?, Record.given?]
  cases record.rawValues[position]?.filter _ <;> rfl

section Lines

variable {config : Config} (h : config.IsWellNamed) {source : Text}

include h

/-- No assignment is read in a line of directives, which does not begin with a name. -/
theorem readAssignment?_eq_none_of_directives {fragment : Fragment}
    (hdirectives : fragment.directives ≠ []) :
    ∀ line ∈ fragment.lines, readAssignment? config.stateInstance line = none := by
  intro line hline
  apply readAssignment?_eq_none
  rintro record field value rfl
  obtain ⟨c, rest, hname, hc, _⟩ := h.stateInstance.exists_cons
  have hhead := head?_of_mem_lines hdirectives _ hline
  rw [Fragment.render_assignment, hname, List.cons_append, List.head?_cons, Option.some_inj,
    Option.some_inj] at hhead
  rcases hhead with rfl | rfl
  · cases hc
  · cases hc

/-- The assignments in the lines of a fragment of the overlay: the one that it stands for. -/
theorem filterMap_readAssignment?_lines {fragment : Fragment}
    (hfragment : fragment ∈ Overlay.overlayFragments config (Scan.ofSource config source)) :
    fragment.lines.filterMap (readAssignment? config.stateInstance)
      = fragment.assignment?.toList := by
  rcases passed_of_mem_overlayFragments h hfragment with hdirectives | ⟨rfl, _⟩ |
    ⟨record, hrecord, hassigned⟩ | ⟨line, rfl, hplain⟩
  · rw [List.filterMap_eq_nil_iff.mpr (readAssignment?_eq_none_of_directives h hdirectives)]
    cases fragment <;> first | rfl | exact absurd rfl hdirectives
  · exact List.filterMap_eq_nil_iff.mpr (List.forall_mem_singleton.mpr
      (readAssignment?_eq_none (alias_ne_assignment h)))
  · obtain ⟨⟨⟨field, value⟩, position⟩, hmem, rfl⟩ := List.mem_map.mp hassigned
    have hfield := (List.of_mem_zip (List.fst_mem_of_mem_zipIdx (List.mem_filter.mp hmem).1)).1
    let assigned : Assignment :=
      { record := record.name, field
        value := relocatedValue config (Scan.ofSource config source) value }
    have hread : readAssignment? config.stateInstance (Fragment.assignment config.stateInstance
        record.name field assigned.value).render = some assigned :=
      readAssignment?_eq_some_iff.mpr ⟨rfl, (isClean_of_mem_records hrecord).name,
        h.recordFields field hfield⟩
    exact List.filterMap_cons_some hread
  · -- the other lines hold no sign of equality
    refine List.filterMap_eq_nil_iff.mpr (List.forall_mem_singleton.mpr ?_)
    apply readAssignment?_eq_none
    intro record field value hline
    apply hplain
    rw [show line = _ from hline, Fragment.render_assignment]
    simp

/-- The assignments in the lines of an overlay are those of its records, in order. -/
theorem assignments_overlay :
    (Text.lines (Overlay.generate config (Scan.ofSource config source)).overlay).filterMap
        (readAssignment? config.stateInstance) =
      (Scan.ofSource config source).records.flatMap fun record =>
        (recordAssignments config (Scan.ofSource config source) record).filterMap
          Fragment.assignment? := by
  have hread : (Overlay.overlayFragments config (Scan.ofSource config source)).flatMap
      (fun fragment => fragment.lines.filterMap (readAssignment? config.stateInstance))
      = (Overlay.overlayFragments config (Scan.ofSource config source)).flatMap
        fun fragment => fragment.assignment?.toList :=
    List.flatMap_congr fun fragment hfragment => filterMap_readAssignment?_lines h hfragment
  rw [lines_overlay h, List.filterMap_flatMap, hread, ← List.filterMap_eq_flatMap_toList]
  have hshadows : ((Overlay.shadowed config (Scan.ofSource config source)).flatMap fun name =>
      [Overlay.identifierShadow config name, .verbatim []]).filterMap Fragment.assignment?
        = [] := by
    rw [List.filterMap_flatMap]
    exact List.flatMap_eq_nil_iff.mpr fun _ _ => rfl
  have halias : (if (Scan.ofSource config source).isRelocated config.paramArrayIdent then
      [Overlay.paramAliasFragment config, .verbatim []] else []).filterMap
        Fragment.assignment? = [] := by
    split
    · rfl
    · rfl
  -- of the parts of the overlay only the records stand for assignments
  rw [Overlay.overlayFragments]
  simp only [List.filterMap_append, List.filterMap_flatMap, hshadows, halias, List.append_nil]
  exact (List.append_nil _).trans (List.append_nil _)

end Lines

/-! ### What a field holds in the end -/

/-- Where the fields are distinct, each of them has one position. -/
theorem filter_places {config : Config} (hfields : config.recordFields.positional.Nodup)
    {position : Nat} {field : Text}
    (hposition : config.recordFields.positional[position]? = some field) :
    config.places.filter (fun place => place.2 = field) = [(position, field)] := by
  simp only [RecordFields.positional, List.nodup_cons, List.mem_cons, List.not_mem_nil, or_false,
    not_or] at hfields
  obtain ⟨⟨hsizeData, hsizeAttr⟩, hdataAttr, _⟩ := hfields
  rcases position with _ | _ | _ | position
  · cases hposition
    simp [Config.places, Ne.symm hsizeData, Ne.symm hsizeAttr]
  · cases hposition
    simp [Config.places, hsizeData, Ne.symm hdataAttr]
  · cases hposition
    simp [Config.places, hsizeAttr, hdataAttr]
  · cases hposition

/-- The assignment at a place is one to the field of that place, in the record of the name. -/
theorem filter_assignmentAt? (config : Config) (scan : Scan) (record : Record) (name field : Text)
    (place : Nat × Text) :
    (record.assignmentAt? config scan place).filter
        (fun assigned => assigned.record = name ∧ assigned.field = field) =
      if record.name = name ∧ place.2 = field then record.assignmentAt? config scan place
      else none := by
  rw [Record.assignmentAt?]
  cases record.given? place.1 with
  | none => rw [Option.map_none, Option.filter_none, ite_self]
  | some value =>
    rw [Option.map_some, Option.filter_some]
    exact if_congr decide_eq_true_iff rfl rfl

/-- Of the assignments of a record those to a field are the one for its position. -/
theorem filter_assignments_record {config : Config}
    (hfields : config.recordFields.positional.Nodup) {position : Nat} {field : Text}
    (hposition : config.recordFields.positional[position]? = some field) (scan : Scan)
    (record : Record) (name : Text) :
    ((recordAssignments config scan record).filterMap Fragment.assignment?).filter
        (fun assigned => assigned.record = name ∧ assigned.field = field) =
      (if record.name = name then record.assignmentAt? config scan (position, field)
        else none).toList := by
  rw [filterMap_assignment?_recordAssignments, List.filter_filterMap]
  simp only [filter_assignmentAt?]
  by_cases hname : record.name = name
  · simp only [hname, true_and, if_true]
    have hhere : (config.places.filter (fun place => place.2 = field)).filterMap
        (record.assignmentAt? config scan)
          = (record.assignmentAt? config scan (position, field)).toList := by
      rw [filter_places hfields hposition, List.filterMap_cons, List.filterMap_nil]
      cases record.assignmentAt? config scan (position, field) <;> rfl
    rw [← hhere, List.filterMap_filter]
    simp only [decide_eq_true_iff]
  · simp only [hname, false_and, if_false]
    exact List.filterMap_eq_nil_iff.mpr fun _ _ => rfl

/-- The values assigned to a field of a record are those that the records of its name give for the
position of the field, translated. -/
theorem map_value_filter_assignments {config : Config}
    (hfields : config.recordFields.positional.Nodup) {position : Nat} {field : Text}
    (hposition : config.recordFields.positional[position]? = some field) (scan : Scan)
    (records : List Record) (name : Text) :
    ((records.flatMap fun record =>
        (recordAssignments config scan record).filterMap Fragment.assignment?).filter
          fun assigned => assigned.record = name ∧ assigned.field = field).map Assignment.value =
      ((records.filter (·.name = name)).filterMap (·.given? position)).map
        (relocatedValue config scan) := by
  rw [List.filter_flatMap]
  simp only [filter_assignments_record hfields hposition]
  rw [← List.filterMap_eq_flatMap_toList, List.filterMap_filter, List.map_filterMap,
    List.map_filterMap]
  apply List.filterMap_congr
  intro record _
  rw [Record.assignmentAt?]
  by_cases hname : record.name = name
  · rw [if_pos hname, if_pos (decide_eq_true hname), Option.map_map]
    rfl
  · rw [if_neg hname, if_neg (by rwa [decide_eq_true_iff])]
    rfl

/-- A field holds the last value that a record of its name gives for its position, translated. -/
theorem execute_overlay {α : Type} (zero : α) (meaning : Text → α) {config : Config}
    (h : config.IsWellNamed) (hfields : config.recordFields.positional.Nodup) {source : Text}
    {position : Nat} {field : Text}
    (hposition : config.recordFields.positional[position]? = some field) (name : Text) :
    let scan := Scan.ofSource config source
    Container.execute meaning config.stateInstance (Overlay.generate config scan).overlay
        (fun _ => zero) (name, field) =
      ((scan.records.filter (·.name = name)).filterMap (·.given? position)).getLast?.elim zero
        fun value => meaning (relocatedValue config scan value) := by
  intro scan
  have hvalues := map_value_filter_assignments hfields hposition scan scan.records name
  rw [Container.execute, assignments_overlay h, Container.foldl_assign,
    ← Function.comp_def meaning Assignment.value, ← Option.elim_map, ← List.getLast?_map, hvalues,
    List.getLast?_map, Option.elim_map]
  rfl

/-- **A field keeps the last value given for it**: once the assignments of the overlay are executed
on a container of zeros, a field of a name holds the last value that a record of the name gives for
its position, translated, and zero if none gives any.  That is what the last record of the name says
if that record gives a value there, or if none of them does. -/
theorem assignments_keep_last_given {α : Type} (zero : α) (meaning : Text → α) (config : Config)
    (h : config.IsWellNamed) (hfields : config.recordFields.positional.Nodup) (source : Text) :
    let scan := Scan.ofSource config source
    let final := Container.execute meaning config.stateInstance
      (Overlay.generate config scan).overlay fun _ => zero
    ∀ name position field, config.recordFields.positional[position]? = some field →
      let records := scan.records.filter (·.name = name)
      let held := fun value => meaning (relocatedValue config scan value)
      final (name, field) = (records.filterMap (·.given? position)).getLast?.elim zero held ∧
      ∀ last, records.getLast? = some last →
        ((last.given? position).isSome ∨ ∀ record ∈ records, record.given? position = none) →
        final (name, field) = (last.given? position).elim zero held := by
  intro scan final name position field hposition records held
  have hfinal : final (name, field)
      = (records.filterMap (·.given? position)).getLast?.elim zero held :=
    execute_overlay zero meaning h hfields hposition name
  refine ⟨hfinal, ?_⟩
  intro last hlast hgives
  rw [hfinal]
  obtain ⟨earlier, hrecords⟩ := List.getLast?_eq_some_iff.mp hlast
  rcases hgives with hgiven | hnone
  · obtain ⟨value, hvalue⟩ := Option.isSome_iff_exists.mp hgiven
    have hhere : [last].filterMap (·.given? position) = [value] := List.filterMap_cons_some hvalue
    rw [hrecords, List.filterMap_append, hhere, List.getLast?_concat, hvalue]
  · rw [List.filterMap_eq_nil_iff.mpr hnone, hnone last (List.mem_of_getLast? hlast)]
    rfl

/-- A record that is declared again, with the data that were missing and without an attribute. -/
theorem assignments_keep_last_given_again :
    let source := Text.unlines ["static unsigned char b_8[8];".toList,
      "static cob_field f = {4, NULL, 0};".toList, "static cob_field f = {8, b_8};".toList]
    let final := Container.execute id "cobol_state".toList
      (Overlay.generate {} (Scan.ofSource {} source)).overlay fun _ => ['0']
    ({} : Config).IsWellNamed ∧ ({} : Config).recordFields.positional.Nodup ∧
      final (['f'], "size".toList) = ['8'] ∧
      final (['f'], "data".toList) = "cobol_state.b_8".toList ∧
      final (['f'], "attr".toList) = ['0'] := by
  intro source final
  have hfields : ({} : Config).recordFields.positional.Nodup := by decide
  let scan := Scan.ofSource {} source
  let records := scan.records.filter (·.name = ['f'])
  obtain ⟨hlast, hnone, hsize, hdata⟩ :
      records.getLast? = some { name := ['f'], rawValues := [['8'], "b_8".toList] } ∧
        (∀ record ∈ records, record.given? 2 = none) ∧
        relocatedValue {} scan ['8'] = ['8'] ∧
        relocatedValue {} scan "b_8".toList = "cobol_state.b_8".toList := by decide +kernel
  have hkeep := assignments_keep_last_given ['0'] id {} isWellNamed_default hfields source ['f']
  refine ⟨isWellNamed_default, hfields, ?_, ?_, ?_⟩
  · exact ((hkeep 0 _ rfl).2 _ hlast (.inl (by decide))).trans hsize
  · exact ((hkeep 1 _ rfl).2 _ hlast (.inl (by decide))).trans hdata
  · exact (hkeep 2 _ rfl).2 _ hlast (.inr hnone)

/-- Of the two branches of a conditional the second leaves its data to the container, which holds
those of the first. -/
theorem assignments_keep_earlier_branch :
    let config : Config := {}
    let source := Text.unlines ["#ifdef WIDE".toList, "static cob_field f = {8, p, &q};".toList,
      "#else".toList, "static cob_field f = {4, NULL, NULL};".toList, "#endif".toList, []]
    let scan := Scan.ofSource config source
    let final := Container.execute id config.stateInstance
      (Overlay.generate config scan).overlay fun _ => ['0']
    config.IsWellNamed ∧ config.recordFields.positional.Nodup ∧
      ∃ last, (scan.records.filter (·.name = ['f'])).getLast? = some last ∧
        final (['f'], config.recordFields.size) = ['4'] ∧
        final (['f'], config.recordFields.data) = ['p'] ∧
        final (['f'], config.recordFields.data)
          ≠ (last.given? 1).elim ['0'] (relocatedValue config scan) := by
  intro config source scan final
  let last : Record := { name := ['f'], rawValues := [['4'], "NULL".toList, "NULL".toList] }
  have hlast : (scan.records.filter (·.name = ['f'])).getLast? = some last := by decide +kernel
  obtain ⟨hsize, hdata⟩ : final (['f'], config.recordFields.size) = ['4'] ∧
      final (['f'], config.recordFields.data) = ['p'] := by decide +kernel
  refine ⟨isWellNamed_default, by decide, last, hlast, hsize, hdata, ?_⟩
  rw [hdata]
  decide

end StateOverlay
