/-
The assignments that take the place of a record initializer.

The braces of an initializer hold values between commas, and the position of a value alone decides
which field it is assigned to.  Dropping the empty values at the end, cutting off what stands
behind the third and leaving out what the container holds already move no value to another field:

* `assignedValue?` — the value that is assigned for a position of the braces, if any;
* `recordAssignments_eq` — the assignments of a record, one position after another;
* `filter_getElem?_splitValues` — the values of a record are those between the commas;
* `Routes`, `routes_relocatedValue` — what a value becomes in the overlay;
* `recordLine` — the line that declares a record;
* `record_assigned_by_position` — the assignments that such a line leads to.
-/
import Mathlib.Data.List.Basic
import StateOverlay.Overlay
import StateOverlay.Proofs.Declaration.Grammar
import StateOverlay.Proofs.Declaration.Records
import StateOverlay.Proofs.Declaration.Values

namespace StateOverlay

open Declaration

/-! ### Values by position -/

/-- The value that is assigned for a position of the braces: it is not blank, and behind the first
position it is no null pointer constant. -/
def assignedValue? (contents : Text) (position : Nat) : Option Text :=
  ((contents.splitOn ',')[position]?.map Text.trim).filter fun value =>
    value ≠ [] ∧ (0 < position → value ≠ ['0'] ∧ value ≠ "NULL".toList)

theorem isLeftToInit_iff {position : Nat} {value : Text} :
    isLeftToInit position value = true ↔
      ¬ (value ≠ [] ∧ (0 < position → value ≠ ['0'] ∧ value ≠ "NULL".toList)) := by
  simp only [isLeftToInit, isNullPointer, Bool.or_eq_true, Bool.and_eq_true, decide_eq_true_eq,
    List.isEmpty_iff, beq_iff_eq]
  by_cases hvalue : value = []
  · simp [hvalue]
  · by_cases hposition : 0 < position
    · simp [hvalue, hposition, or_iff_not_imp_left]
    · simp [hvalue, hposition]

/-- What is not left to the container is neither empty nor, behind the first position, a null
pointer constant. -/
theorem not_isLeftToInit_eq (position : Nat) :
    (fun value => !isLeftToInit position value) = fun value =>
      decide (value ≠ [] ∧ (0 < position → value ≠ ['0'] ∧ value ≠ "NULL".toList)) := by
  funext value
  rw [Bool.eq_iff_iff, Bool.not_eq_true', ← Bool.not_eq_true, isLeftToInit_iff, not_not,
    decide_eq_true_eq]

/-- The assignments of a record, one position after another. -/
theorem recordAssignments_eq (config : Config) (scan : Scan) (record : Record) :
    recordAssignments config scan record =
      [(0, config.recordFields.size), (1, config.recordFields.data),
        (2, config.recordFields.attr)].filterMap fun (position, field) =>
          (record.rawValues[position]?.filter (!isLeftToInit position ·)).map fun value =>
            .assignment config.stateInstance record.name field
              (relocatedValue config scan value) := by
  obtain ⟨name, values⟩ := record
  -- an initializer may give fewer values than there are positions, or more
  match values with
  | [] => rfl
  | [a] =>
    cases ha : isLeftToInit 0 a <;>
      simp [recordAssignments, RecordFields.positional, Option.filter, ha]
  | [a, b] =>
    cases ha : isLeftToInit 0 a <;> cases hb : isLeftToInit 1 b <;>
      simp [recordAssignments, RecordFields.positional, Option.filter, ha, hb]
  | a :: b :: c :: rest =>
    cases ha : isLeftToInit 0 a <;> cases hb : isLeftToInit 1 b <;>
      cases hc : isLeftToInit 2 c <;>
        simp [recordAssignments, RecordFields.positional, Option.filter, ha, hb, hc]

/-- The values of a record are those between the commas, as far as they are assigned. -/
theorem filter_getElem?_splitValues (contents : Text) {position : Nat} (hposition : position < 3) :
    (splitValues contents)[position]?.filter (!isLeftToInit position ·)
      = assignedValue? contents position := by
  ext value
  rw [not_isLeftToInit_eq, assignedValue?, ← List.getElem?_map, Option.filter_eq_some_iff,
    Option.filter_eq_some_iff, getElem?_splitValues_eq_some_iff, decide_eq_true_eq]
  constructor
  · rintro ⟨⟨_, hpiece, _⟩, hassigned⟩
    exact ⟨hpiece, hassigned⟩
  · rintro ⟨hpiece, hassigned⟩
    -- what is assigned is not empty, so nothing up to it is dropped
    obtain ⟨hlt, heq⟩ := List.getElem?_eq_some_iff.mp hpiece
    have hmem : value ∈ (trimmedPieces contents).drop position := by
      rw [trimmedPieces, List.drop_eq_getElem_cons hlt, heq]
      exact List.mem_cons_self
    exact ⟨⟨hposition, hpiece, value, hmem, hassigned.1⟩, hassigned⟩

/-! ### Values in the container -/

/-- What becomes of a value in the overlay: a relocated name and the address of one lead into the
container, and any other value is kept. -/
inductive Routes (config : Config) (scan : Scan) : Text → Text → Prop
  | name {name : Text} (h : name ∈ scan.identifiers) :
    Routes config scan name (config.stateInstance ++ ['.'] ++ name)
  | address {name : Text} (h : name ∈ scan.identifiers) :
    Routes config scan ('&' :: name) ('&' :: (config.stateInstance ++ ['.'] ++ name))
  | other {value : Text} (hname : value ∉ scan.identifiers)
      (haddress : ∀ name, value = '&' :: name → name ∉ scan.identifiers) :
    Routes config scan value value

theorem routes_relocatedValue (config : Config) (scan : Scan) (value : Text) :
    Routes config scan value (relocatedValue config scan value) := by
  simp only [relocatedValue, Scan.isRelocated, List.contains_iff_mem, Config.qualified]
  split
  · case isTrue h => exact .name h
  · case isFalse hvalue =>
    split
    · case h_1 name =>
      split
      · case isTrue h => exact .address h
      · case isFalse h =>
        refine .other hvalue ?_
        rintro _ ⟨rfl⟩
        exact h
    · case h_2 hshape =>
      refine .other hvalue ?_
      rintro name rfl
      exact absurd rfl (hshape name)

/-! ### The line of a record -/

/-- The line that declares a record with some contents between its braces. -/
def recordLine {tag name : Text} (htag : IsIdentifier tag) (hname : IsIdentifier name)
    (contents : Text) : DeclarationLine where
  margin := []
  qualified := some [' ']
  type := tag ++ [' ']
  name
  suffix := none
  attributes := []
  gap := [' ']
  initializer := some ([' ', '{'] ++ contents ++ ['}'])
  ending := []
  comment := none
  margin_blank := by simp
  qualified_blank := by
    rintro _ ⟨rfl⟩
    exact ⟨List.cons_ne_nil _ _, isBlank_of_mem_space⟩
  isTypeText_type := by
    refine ⟨?_, by simp; decide⟩
    intro c hc
    rcases List.mem_append.mp hc with hc | hc
    · exact .inl (htag.isWord_of_mem c hc)
    · rw [List.mem_singleton.mp hc]
      decide
  isIdentifier_name := hname
  suffix_plain := by simp
  attributes_spaced := by simp
  gap_blank := isBlank_of_mem_space
  ending_blank := by simp

section Line

variable {qualifier tag name contents : Text} (hqualifier : IsIdentifier qualifier)
  (htag : IsIdentifier tag) (hname : IsIdentifier name)

theorem text_recordLine :
    (recordLine htag hname contents).text qualifier =
      qualifier ++ [' '] ++ tag ++ [' '] ++ name ++ [' ', '=', ' ', '{'] ++ contents ++
        ['}', ';'] := by
  simp [recordLine, DeclarationLine.text, DeclarationLine.code, qualifierText, commentText,
    DeclarationLine.tail, DeclarationLine.suffixText, DeclarationLine.attributesText,
    DeclarationLine.initializerText]

include hqualifier in
theorem declaration_recordLine :
    (recordLine htag hname contents).declaration qualifier ++ [';'] =
      qualifier ++ ([' '] ++ (tag ++ ([' '] ++
        (name ++ ([' '] ++ '=' :: ([' '] ++ '{' :: (contents ++ '}' :: [';']))))))) := by
  rw [DeclarationLine.declaration, recordLine]
  show Text.trimStart (qualifier ++ [' '] ++ _) ++ _ = _
  rw [List.append_assoc, trimStart_identifier hqualifier]
  simp [DeclarationLine.tail, DeclarationLine.suffixText, DeclarationLine.attributesText,
    DeclarationLine.initializerText]

include hqualifier in
/-- The record of the line is found where the line begins. -/
theorem record?_recordLine (hclose : '}' ∉ contents) :
    record? qualifier tag ((recordLine htag hname contents).declaration qualifier ++ [';'])
      = some (name, contents) := by
  have hblank := isBlank_of_mem_space
  obtain ⟨first, word, htagged, hfirst, _⟩ := htag.exists_cons
  apply BeginsRecord.record?
  · rw [declaration_recordLine hqualifier]
    exact ⟨[' '], [' '], _, List.cons_ne_nil _ _, hblank, List.cons_ne_nil _ _, hblank,
      ⟨hname, hclose, [' '], [' '], [';'], hblank, hblank, rfl⟩, rfl⟩
  · rw [htagged]
    exact List.cons_ne_nil _ _
  · rw [htagged]
    rintro c ⟨rfl⟩
    exact isBlank_of_isNameStart hfirst

include hqualifier in
/-- No comment opens on the line unless one opens between the braces. -/
theorem opener_recordLine (hopener : ¬ ['/', '*'] <:+: contents) :
    ¬ ['/', '*'] <:+: (recordLine htag hname contents).code qualifier := by
  have hcode : (recordLine htag hname contents).code qualifier =
      (qualifier ++ [' '] ++ tag ++ [' '] ++ name ++ [' ', '=', ' ']) ++
        '{' :: (contents ++ '}' :: [';']) := by
    simp [recordLine, DeclarationLine.code, qualifierText, DeclarationLine.tail,
      DeclarationLine.suffixText, DeclarationLine.attributesText, DeclarationLine.initializerText]
  have hfront : '/' ∉ qualifier ++ [' '] ++ tag ++ [' '] ++ name ++ [' ', '=', ' '] := by
    have hword : ∀ {word : Text}, IsIdentifier word → '/' ∉ word := fun h =>
      h.not_mem (by decide) (by decide)
    simp [hword hqualifier, hword htag, hword hname]
  rw [hcode]
  intro hfound
  rcases infix_of_infix_append_cons hfound (by decide) with hfound | hfound
  · exact hfront (hfound.subset List.mem_cons_self)
  · rcases infix_of_infix_append_cons hfound (by decide) with hfound | hfound
    · exact hopener hfound
    · revert hfound
      decide

end Line

/-! ### The assignments of a line -/

/-- The record of a line is relocated, and its assignments follow the positions of its values. -/
theorem record_assigned_by_position {config : Config} {source name contents : Text} {i : Nat}
    (hqualifier : IsIdentifier config.storageQualifier) (htag : IsIdentifier config.recordTypeTag)
    (hname : IsIdentifier name) (hclose : '}' ∉ contents) (hopener : ¬ ['/', '*'] <:+: contents)
    (hline : (Text.lines source)[i]? = some (config.storageQualifier ++ [' '] ++
      config.recordTypeTag ++ [' '] ++ name ++ [' ', '=', ' ', '{'] ++ contents ++ ['}', ';'])) :
    let scan := Scan.ofSource config source
    ∃ record, record.name = name ∧
      (∃ code ∈ codeLines config source, code.number = i + 1 ∧ code.record? = some record) ∧
      record ∈ scan.records ∧ name ∈ scan.identifiers ∧
      (recordAssignments config scan record).map Fragment.render =
        [(0, config.recordFields.size), (1, config.recordFields.data),
          (2, config.recordFields.attr)].filterMap (fun (position, field) =>
            (assignedValue? contents position).map fun value =>
              config.stateInstance ++ ['.'] ++ name ++ ['.'] ++ field ++ " = ".toList ++
                relocatedValue config scan value ++ [';']) ∧
      (∀ value, Routes config scan value (relocatedValue config scan value)) ∧
      recordAssignments config scan record <:+: Overlay.overlayFragments config scan := by
  intro scan
  let line := recordLine htag hname contents
  have hcode : IsCodeLine (line.text config.storageQualifier) := line.isCodeLine hqualifier
  let record : Record := { name, rawValues := splitValues contents }
  have hclass : classify config (line.text config.storageQualifier)
      = .declaration name (some record) := by
    rw [line.classify_text hqualifier (fun h => nomatch h) rfl
      (opener_recordLine hqualifier htag hname hopener),
      record?_recordLine hqualifier htag hname hclose]
    rfl
  rw [← text_recordLine htag hname] at hline
  have hmem := mem_codeLines_of_declaration hline hcode hclass
  have hrecord : record ∈ scan.records := mem_records_iff.mpr ⟨_, hmem, rfl⟩
  refine ⟨record, rfl, ⟨_, hmem, rfl, rfl⟩, hrecord, mem_identifiers_iff.mpr ⟨_, hmem, rfl⟩, ?_,
    routes_relocatedValue config scan, ?_⟩
  · rw [recordAssignments_eq, List.map_filterMap]
    apply List.filterMap_congr
    rintro ⟨position, field⟩ hposition
    have hlt : position < 3 := by
      simp only [List.mem_cons, Prod.mk.injEq, List.not_mem_nil, or_false] at hposition
      omega
    dsimp only
    rw [filter_getElem?_splitValues contents hlt, Option.map_map]
    rfl
  · have hassigned : recordAssignments config scan record <:+:
        scan.records.flatMap (recordAssignments config scan) :=
      List.infix_of_mem_flatten (List.mem_map_of_mem hrecord)
    refine hassigned.trans ?_
    rw [Overlay.overlayFragments]
    simp only [List.append_assoc]
    exact (List.prefix_append _ _).isInfix.trans (List.suffix_append _ _).isInfix

/-- A record with an empty position, relocated values and more values than positions. -/
theorem record_assigned_by_position_surplus :
    let source := Text.unlines ["static cob_field f = { , tab, &tab, 7};".toList,
      "static unsigned char tab[4];".toList]
    ∃ record ∈ (Scan.ofSource {} source).records, record.name = "f".toList ∧
      "f".toList ∈ (Scan.ofSource {} source).identifiers ∧
      (recordAssignments {} (Scan.ofSource {} source) record).map Fragment.render =
        ["cobol_state.f.data = cobol_state.tab;".toList,
          "cobol_state.f.attr = &cobol_state.tab;".toList] := by
  intro source
  obtain ⟨record, hname, _, hrecord, hidentifier, hassigned, _⟩ :=
    @record_assigned_by_position {} source "f".toList " , tab, &tab, 7".toList 0 (by decide +kernel)
      (by decide +kernel) (by decide +kernel) (by decide +kernel) (by decide +kernel)
      (by decide +kernel)
  refine ⟨record, hrecord, hname, hidentifier, hassigned.trans ?_⟩
  decide +kernel

end StateOverlay
