/-
The names of records among the relocated identifiers.

The record of a line and its identifier are found in two ways.  A record initializer is searched for
in the whole line, while the identifier stands at the end of what is left in front of the first
equals sign.  They agree on every line where no equals sign and no parenthesis comes before the
record initializer, and may differ on others: a second declaration on a line is assigned to, but
not relocated.

* `recordComesFirst` — the lines on which the two agree;
* `trailingName?_declarator_of_equals` — the name in front of the first equals sign is found;
* `name_eq_of_classify` — the record of such a line has the name that the line declares;
* `record_relocated` — so the records of a header made of such lines are all relocated;
* `second_declaration_not_relocated` — a header where one is not.
-/
import StateOverlay.Proofs.Declaration.Declarator
import StateOverlay.Proofs.Declaration.Records
import StateOverlay.Proofs.Macro.Shadow
import StateOverlay.Proofs.Scan.CodeLines

namespace StateOverlay

open Declaration

/-! ### The name in front of an equals sign -/

namespace Declaration

/-- A name in front of the first equals sign, and behind anything that ends no word, is the declared
one. -/
theorem trailingName?_declarator_of_equals {qualifier lead name before : Text}
    (hqualifier : IsIdentifier qualifier) (hname : IsIdentifier name) (hne : lead ≠ [])
    (hlast : ∀ c ∈ lead.getLast?, isWord c = false) (hequals : '=' ∉ lead) (hopen : '(' ∉ lead)
    (hbefore : ∀ c ∈ before, isBlank c) (more : Text) :
    trailingName? (declarator qualifier (lead ++ (name ++ (before ++ '=' :: more))))
      = some name := by
  have htail : Separates (before ++ '=' :: more) :=
    .blanks_append hbefore (.cons (by decide) (by decide) (by decide) _)
  obtain ⟨shorter, hsuffix, hunqualified⟩ :=
    exists_unqualified hqualifier hname hlast (fun hnil => absurd hnil hne) htail.head
  have hunopened : '(' ∉ shorter ++ name := by
    rw [List.mem_append, not_or]
    exact ⟨fun hc => hopen (hsuffix.subset hc), hname.not_mem (by decide) (by decide)⟩
  have hplain : '=' ∉ shorter ++ (name ++ before) := by
    simp only [List.mem_append, not_or]
    exact ⟨fun hc => hequals (hsuffix.subset hc), hname.not_mem (by decide) (by decide),
      fun hc => (nomatch hbefore _ hc)⟩
  have hcut : (removeAttributes (shorter ++ (name ++ (before ++ '=' :: more)))).takeWhile (· != '=')
      = shorter ++ name ++ before := by
    rw [← List.append_assoc, removeAttributes_append_of_unopened hunopened htail,
      removeAttributes_blanks_append hbefore, removeAttributes_cons_of_not_isWord (by decide)]
    simpa using (takeWhile_ne_append hplain (removeAttributes more)).1
  obtain ⟨first, word, hfirst, _⟩ := hname.exists_cons
  have htrim : Text.trim (shorter ++ name ++ before) = Text.trimStart shorter ++ name := by
    refine trim_append_append (hfirst ▸ List.cons_ne_nil _ _) ?_ ?_ hbefore
    · exact fun c hc => hname.isBlank_of_mem c (List.mem_of_head? hc)
    · exact fun c hc => hname.isBlank_of_mem c (List.mem_of_getLast? hc)
  -- nothing in front of the name has been cut off but the qualifier and white space
  rw [declarator, hunqualified, hcut, htrim]
  refine trailingName?_of_end hname fun c hc => hlast c ?_
  obtain ⟨front, hfront⟩ := (List.dropWhile_suffix isBlank).trans hsuffix
  rw [Text.trimStart] at hc
  rw [← hfront, List.getLast?_append, hc]
  rfl

/-- A record initializer that comes first declares the name that is found. -/
theorem trailingName?_of_record {qualifier tag code front name contents : Text}
    (hqualifier : IsIdentifier qualifier) (htag : IsIdentifier tag)
    (hsearch : search (recordAt? qualifier tag) code = some (front, name, contents))
    (hequals : '=' ∉ front) (hopen : '(' ∉ front) :
    trailingName? (declarator qualifier code.dropLast) = some name := by
  obtain ⟨record, rfl, hrecord, _⟩ := search_eq_some_iff.mp hsearch
  have hbegins := beginsRecord_of_recordAt? hrecord
  obtain ⟨lead, before, more, rfl, hmore, hbefore, hne, hlast, hlead⟩ := hbegins.exists_lead
  have hsplit : (front ++ (lead ++ (name ++ (before ++ '=' :: more)))).dropLast
      = (front ++ lead) ++ (name ++ (before ++ '=' :: more.dropLast)) := by
    have hassoc : front ++ (lead ++ (name ++ (before ++ '=' :: more)))
        = (front ++ lead ++ name ++ before ++ ['=']) ++ more := by simp
    rw [hassoc, List.dropLast_append_of_ne_nil hmore]
    simp
  have hplain : ∀ c, isWord c = false → isBlank c = false → c ∉ front → c ∉ front ++ lead := by
    intro c hword hblank hfront hc
    rcases List.mem_append.mp hc with hc | hc
    · exact hfront hc
    · rcases hlead c hc with hc | hc | hc
      · cases hword.symm.trans (hqualifier.isWord_of_mem c hc)
      · cases hword.symm.trans (htag.isWord_of_mem c hc)
      · cases hblank.symm.trans hc
  have hend : ∀ c ∈ (front ++ lead).getLast?, isWord c = false := by
    intro c hc
    rw [List.getLast?_append_of_ne_nil _ hne] at hc
    exact isWord_of_isBlank (hlast c hc)
  have hname := hbegins.isIdentifier
  rw [hsplit]
  refine trailingName?_declarator_of_equals hqualifier hname ?_ hend ?_ ?_ hbefore _
  · exact List.append_ne_nil_of_right_ne_nil front hne
  · exact hplain '=' (by decide) (by decide) hequals
  · exact hplain '(' (by decide) (by decide) hopen

end Declaration

/-! ### Records and identifiers -/

/-- Whether nothing stands in front of the record initializer of a line that ends a declaration or
opens a list of parameters. -/
def recordComesFirst (config : Config) (line : Text) : Bool :=
  match search (recordAt? config.storageQualifier config.recordTypeTag)
      (Text.trim (stripComment line)) with
  | some (front, _) => front.all fun c => c != '=' && c != '('
  | none => true

/-- The record of a line has the name that the line declares, if it comes first. -/
theorem name_eq_of_classify {config : Config} {line name : Text} {record : Record}
    (hqualifier : IsIdentifier config.storageQualifier) (htag : IsIdentifier config.recordTypeTag)
    (hfirst : recordComesFirst config line = true)
    (h : classify config line = .declaration name (some record)) : record.name = name := by
  obtain ⟨hfound, hrecord⟩ := exists_of_classify_eq_declaration h
  obtain ⟨contents, hread, _⟩ := hrecord record rfl
  obtain ⟨⟨front, found⟩, hsearch, rfl⟩ := Option.map_eq_some_iff.mp hread
  rw [recordComesFirst, hsearch] at hfirst
  simp only [List.all_eq_true, Bool.and_eq_true, bne_iff_ne] at hfirst
  have hname := trailingName?_of_record hqualifier htag hsearch
    (fun hc => (hfirst _ hc).1 rfl) (fun hc => (hfirst _ hc).2 rfl)
  exact Option.some.inj (hname.symm.trans hfound)

/-- If record initializers come first on their lines, every record is relocated, so that the
overlay shadows or aliases whatever it assigns to. -/
theorem record_relocated {config : Config} {source : Text}
    (hqualifier : IsIdentifier config.storageQualifier) (htag : IsIdentifier config.recordTypeTag)
    (hfirst : ∀ line ∈ Text.lines source, IsCodeLine line → recordComesFirst config line = true) :
    let scan := Scan.ofSource config source
    ∀ record ∈ scan.records, record.name ∈ scan.identifiers ∧
      (record.name ∈ Overlay.shadowed config scan ∨
        record.name = config.paramArrayIdent ∧
          (Overlay.generate config scan).paramAlias = true) := by
  intro scan record hrecord
  obtain ⟨line, hline, hcode, name, hclass⟩ := mem_records_iff_exists_line.mp hrecord
  have hname := name_eq_of_classify hqualifier htag (hfirst line hline hcode) hclass
  have hidentifier : record.name ∈ scan.identifiers := by
    rw [hname]
    exact mem_identifiers_iff_exists_line.mpr ⟨line, hline, hcode, _, hclass⟩
  refine ⟨hidentifier, ?_⟩
  by_cases hparam : record.name = config.paramArrayIdent
  · refine .inr ⟨hparam, ?_⟩
    rw [hparam] at hidentifier
    exact List.contains_iff_mem.mpr hidentifier
  · exact .inl (mem_shadowed.mpr ⟨hidentifier, hparam⟩)

/-- A header with a record behind another qualifier, and one with a record that is aliased. -/
theorem record_relocated_qualified :
    let source := Text.unlines ["volatile static cob_field f = {1};".toList,
      "static cob_field cob_procedure_params = {2};".toList]
    let scan := Scan.ofSource {} source
    ∀ record ∈ scan.records, record.name ∈ scan.identifiers ∧
      (record.name ∈ Overlay.shadowed {} scan ∨
        record.name = ({} : Config).paramArrayIdent ∧
          (Overlay.generate {} scan).paramAlias = true) := by
  intro source
  have hfirst : ∀ line ∈ Text.lines source, recordComesFirst {} line = true := by decide +kernel
  exact record_relocated (by decide +kernel) (by decide +kernel) fun line hline _ =>
    hfirst line hline

/-- The record of a second declaration on a line is assigned to and not relocated. -/
theorem second_declaration_not_relocated :
    let scan := Scan.ofSource {} "static int x = 0; static cob_field f = {1};".toList
    ∃ record ∈ scan.records, record.name ∉ scan.identifiers ∧
      (recordAssignments {} scan record).map Fragment.render =
        ["cobol_state.f.size = 1;".toList] := by
  decide +kernel

end StateOverlay
