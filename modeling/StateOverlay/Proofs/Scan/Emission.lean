/-
What a scan finds can be written out as it is.

The names of a scan are identifiers, and the values of its records are trimmed pieces of a line
between commas, inside braces and in front of any comment.  So a macro can be named like each
identifier, and an assignment of a value is one statement on one line.  A relocated value holds a
dot, which no identifier does, so relocating it again changes nothing:

* `IsPlainValue`, `Record.IsPlain`, `Scan.IsPlain` — values, records and scans that can be written
  out;
* `isPlain_of_mem_records` — the records of a scan are plain;
* `relocatedValue_relocatedValue` — a value is relocated once;
* `scan_isPlain` — what any header scans to can be written out.
-/
import StateOverlay.Proofs.Overlay.Assignments
import StateOverlay.Proofs.Scan.Composition
import StateOverlay.Proofs.Scan.Names

namespace StateOverlay

open Declaration

/-! ### Values -/

/-- A value as it stands between two commas of an initializer: it has no outer white space, and it
holds nothing that would end the value, its braces, its line or the code on that line. -/
structure IsPlainValue (value : Text) : Prop where
  trimmed : Text.trim value = value
  comma : ',' ∉ value
  brace : '}' ∉ value
  feed : '\n' ∉ value
  opener : ¬ ['/', '*'] <:+: value

/-- The values of braces that stand in a line in front of its comment are plain. -/
theorem isPlainValue_of_mem_splitValues {line contents value : Text} (hline : '\n' ∉ line)
    (hcontents : contents <:+: stripComment line) (hclose : '}' ∉ contents)
    (h : value ∈ splitValues contents) : IsPlainValue value := by
  have hpart := infix_of_mem_splitValues h
  have hcode := hpart.trans hcontents
  obtain ⟨piece, hpiece, htrim⟩ := exists_piece_of_mem_splitValues h
  refine ⟨by rw [← htrim, trim_trim], ?_, fun hbrace => hclose (hpart.subset hbrace), ?_, ?_⟩
  · rw [← htrim]
    exact fun hcomma => not_mem_of_mem_splitOn hpiece (trim_subset piece hcomma)
  · exact fun hfeed => hline ((stripComment_isPrefix line).subset (hcode.subset hfeed))
  · exact fun hopener => opener_not_infix_stripComment line (hopener.trans hcode)

/-! ### Records -/

/-- A record with the name of an identifier and at most one plain value for each field. -/
structure Record.IsPlain (record : Record) : Prop where
  name : IsIdentifier record.name
  length : record.rawValues.length ≤ 3
  values : ∀ value ∈ record.rawValues, IsPlainValue value

/-- The record of a line is plain. -/
theorem isPlain_of_classify {config : Config} {line name : Text} {record : Record}
    (hline : '\n' ∉ line) (h : classify config line = .declaration name (some record)) :
    record.IsPlain := by
  obtain ⟨contents, hread, hvalues⟩ := (exists_of_classify_eq_declaration h).2 record rfl
  obtain ⟨hname, hclose, hpart⟩ := record?_eq_some hread
  refine ⟨hname, ?_, ?_⟩
  · rw [hvalues]
    exact length_splitValues contents
  · intro value hvalue
    rw [hvalues] at hvalue
    exact isPlainValue_of_mem_splitValues hline (hpart.trans (trim_isInfix _)) hclose hvalue

/-- The records of a scan are plain. -/
theorem isPlain_of_mem_records {config : Config} {source : Text} {record : Record}
    (h : record ∈ (Scan.ofSource config source).records) : record.IsPlain := by
  obtain ⟨line, hline, _, name, hclass⟩ := mem_records_iff_exists_line.mp h
  exact isPlain_of_classify (not_mem_of_mem_lines hline) hclass

/-! ### Relocated values -/

/-- A value is kept if neither it nor what it takes the address of is relocated. -/
theorem relocatedValue_eq_self {config : Config} {scan : Scan} {value : Text}
    (hname : value ∉ scan.identifiers)
    (haddress : ∀ name, value = '&' :: name → name ∉ scan.identifiers) :
    relocatedValue config scan value = value := by
  have hroutes := routes_relocatedValue config scan value
  generalize relocatedValue config scan value = relocated at hroutes ⊢
  cases hroutes with
  | name h => exact absurd h hname
  | address h => exact absurd h (haddress _ rfl)
  | other => rfl

/-- A value is relocated once: what leads into the container is no identifier. -/
theorem relocatedValue_relocatedValue {config : Config} {scan : Scan}
    (hscan : ∀ name ∈ scan.identifiers, IsIdentifier name) (value : Text) :
    relocatedValue config scan (relocatedValue config scan value)
      = relocatedValue config scan value := by
  have hdot : ∀ s : Text, '.' ∈ s → s ∉ scan.identifiers := fun s hs hmem =>
    (hscan s hmem).not_mem (by decide) (by decide) hs
  have hinner : ∀ name, '.' ∈ config.stateInstance ++ ['.'] ++ name := by simp
  have hroutes := routes_relocatedValue config scan value
  generalize relocatedValue config scan value = relocated at hroutes ⊢
  cases hroutes with
  | name =>
    refine relocatedValue_eq_self (hdot _ (hinner value)) fun other hother => hdot other ?_
    -- an address sign in front belongs to the container
    have hmem := hinner value
    rw [hother, List.mem_cons] at hmem
    exact hmem.resolve_left (by decide)
  | @address name _ =>
    refine relocatedValue_eq_self (hdot _ (List.mem_cons_of_mem _ (hinner name))) ?_
    rintro other ⟨rfl⟩
    exact hdot _ (hinner name)
  | other hname haddress => exact relocatedValue_eq_self hname haddress

/-! ### Scans -/

/-- A scan that can be written out: its preamble is made of quiet lines, what it relocates are
identifiers, each once, its records are plain, and it found nothing in a header that is transformed
already. -/
structure Scan.IsPlain (scan : Scan) : Prop where
  preamble : ∀ line ∈ scan.preamble, IsQuietLine line
  identifiers : ∀ name ∈ scan.identifiers, IsIdentifier name
  distinct : scan.identifiers.Nodup
  records : ∀ record ∈ scan.records, record.IsPlain
  rewritten : scan.alreadyTransformed = true →
    scan.identifiers = [] ∧ scan.records = [] ∧ scan.skipped = []

/-- **What any header scans to can be written out**, whatever the header holds and whatever the
qualifier and the tag are; and relocating a value of it twice is relocating it once. -/
theorem scan_isPlain (config : Config) (source : Text) :
    let scan := Scan.ofSource config source
    scan.IsPlain ∧ ∀ value, relocatedValue config scan (relocatedValue config scan value)
      = relocatedValue config scan value := by
  intro scan
  have hidentifiers : ∀ name ∈ scan.identifiers, IsIdentifier name :=
    fun name => isIdentifier_of_mem_identifiers
  refine ⟨⟨?_, hidentifiers, nodup_eraseDups _, fun record => isPlain_of_mem_records, ?_⟩,
    relocatedValue_relocatedValue hidentifiers⟩
  · intro line hline
    exact isQuietLine_of_isQuiet (not_mem_of_mem_preamble hline) (isQuiet_of_mem_preamble hline)
  · intro htransformed
    have hrewritten := isRewritten_of_alreadyTransformed htransformed
    exact ⟨hrewritten.identifiers, hrewritten.records, hrewritten.skipped⟩

end StateOverlay
