/-
What a scan finds, as texts.

Every name in a scan was read as a name, and the values of its records are pieces of a line of the
header.  So the names of a scan are identifiers, and no value breaks a line.

* `record?_eq_some` — the name and the contents of a record initializer;
* `infix_of_mem_splitValues` — the values of a record are pieces of its contents;
* `exists_of_classify_eq_declaration` — where the name and the record of a line are read;
* `isIdentifier_of_mem_identifiers` — the names of the declarations;
* `Record.IsClean`, `isClean_of_mem_records` — the records.
-/
import StateOverlay.Proofs.Declaration.Comments
import StateOverlay.Proofs.Declaration.Declarator
import StateOverlay.Proofs.Declaration.Records
import StateOverlay.Proofs.Declaration.Values
import StateOverlay.Proofs.Scan.CodeLines

namespace StateOverlay

namespace Declaration

/-! ### Pieces of a line -/

/-- The name of a record initializer is an identifier, and its contents stand in the text and close
no brace. -/
theorem record?_eq_some {qualifier tag s name contents : Text}
    (h : record? qualifier tag s = some (name, contents)) :
    IsIdentifier name ∧ '}' ∉ contents ∧ contents <:+: s := by
  obtain ⟨front, _, rfl, outer, inner, rest, _, _, _, _, hbraces, rfl⟩ := exists_of_record? h
  obtain ⟨hname, hclose, before, behind, after, _, _, rfl⟩ := hbraces
  refine ⟨hname, hclose, ?_⟩
  refine ⟨front ++ (qualifier ++ (outer ++ (tag ++ (inner ++ (name ++ (before ++ '=' ::
    (behind ++ ['{']))))))), '}' :: after, ?_⟩
  simp

/-- The name at the end of a declarator is an identifier. -/
theorem isIdentifier_of_trailingName? {s name : Text} (h : trailingName? s = some name) :
    IsIdentifier name := by
  obtain ⟨⟨before, found⟩, hsearch, rfl⟩ := Option.map_eq_some_iff.mp h
  obtain ⟨rest, rfl, hfound, _⟩ := search_eq_some_iff.mp hsearch
  exact (trailingNameAt?_eq_some_iff.mp hfound).1

/-- The values of a record stand in its contents. -/
theorem infix_of_mem_splitValues {contents value : Text} (h : value ∈ splitValues contents) :
    value <:+: contents := by
  obtain ⟨piece, hpiece, rfl⟩ := exists_piece_of_mem_splitValues h
  exact (trim_isInfix piece).trans (infix_of_mem_splitOn hpiece)

end Declaration

/-! ### Lines of code -/

/-- A record whose name is an identifier and whose values break no line. -/
structure Record.IsClean (record : Record) : Prop where
  name : IsIdentifier record.name
  values : ∀ value ∈ record.rawValues, '\n' ∉ value

/-- The name that a line declares stands at the end of its declarator, and its record is read from
the code of the line. -/
theorem exists_of_classify_eq_declaration {config : Config} {line name : Text}
    {record : Option Record} (h : classify config line = .declaration name record) :
    let code := Text.trim (Declaration.stripComment line)
    Declaration.trailingName? (Declaration.declarator config.storageQualifier code.dropLast)
        = some name ∧
      ∀ found, record = some found → ∃ contents,
        Declaration.record? config.storageQualifier config.recordTypeTag code
          = some (found.name, contents) ∧
        found.rawValues = Declaration.splitValues contents := by
  rw [classify] at h
  dsimp only at h
  split at h
  · split at h
    · case h_1 hname =>
      cases h
      refine ⟨hname, fun found hfound => ?_⟩
      obtain ⟨⟨recordName, contents⟩, hrecord, rfl⟩ := Option.map_eq_some_iff.mp hfound
      exact ⟨contents, hrecord, rfl⟩
    · cases h
  · cases h

/-- What a line declares is an identifier, and its record is made of pieces of the line. -/
theorem classify_eq_declaration {config : Config} {line name : Text} {record : Option Record}
    (hline : '\n' ∉ line) (h : classify config line = .declaration name record) :
    IsIdentifier name ∧ ∀ found, record = some found → found.IsClean := by
  obtain ⟨hname, hrecord⟩ := exists_of_classify_eq_declaration h
  refine ⟨Declaration.isIdentifier_of_trailingName? hname, fun found hfound => ?_⟩
  obtain ⟨contents, hread, hvalues⟩ := hrecord found hfound
  obtain ⟨hidentifier, _, hcontents⟩ := Declaration.record?_eq_some hread
  refine ⟨hidentifier, fun value hvalue hfeed => hline ?_⟩
  rw [hvalues] at hvalue
  have hcode := (Declaration.infix_of_mem_splitValues hvalue).trans hcontents
  have hstrip := hcode.trans (trim_isInfix _)
  exact (hstrip.trans (Declaration.stripComment_isPrefix line).isInfix).subset hfeed

/-- The names of a scan are identifiers. -/
theorem isIdentifier_of_mem_identifiers {config : Config} {source name : Text}
    (h : name ∈ (Scan.ofSource config source).identifiers) : IsIdentifier name := by
  obtain ⟨line, hline, _, record, hclass⟩ := mem_identifiers_iff_exists_line.mp h
  exact (classify_eq_declaration (not_mem_of_mem_lines hline) hclass).1

/-- The records of a scan break no line. -/
theorem isClean_of_mem_records {config : Config} {source : Text} {record : Record}
    (h : record ∈ (Scan.ofSource config source).records) : record.IsClean := by
  obtain ⟨line, hline, _, name, hclass⟩ := mem_records_iff_exists_line.mp h
  exact (classify_eq_declaration (not_mem_of_mem_lines hline) hclass).2 record rfl

end StateOverlay
