/-
The declarations that a scan relocates.

The scan reads one line at a time, so a line that declares a name brings that name and no other,
and keeps out of the skipped lines, whatever header it stands in.

* `declaration_relocated` — the name of a declaration is relocated, alone and without a report.
-/
import StateOverlay.Proofs.Declaration.Grammar

namespace StateOverlay

/-- A line that declares a name adds that name to what is relocated, nothing else, and no skipped
line. -/
theorem declaration_relocated {config : Config} {source : Text} {i : Nat} (line : DeclarationLine)
    (hqualifier : IsIdentifier config.storageQualifier)
    (hname : line.name ≠ config.storageQualifier)
    (hopener : ¬ ['/', '*'] <:+: line.code config.storageQualifier)
    (hline : (Text.lines source)[i]? = some (line.text config.storageQualifier)) :
    line.name ∈ (Scan.ofSource config source).identifiers ∧
    (∀ skipped ∈ (Scan.ofSource config source).skipped, skipped.lineNumber ≠ i + 1) ∧
    ∀ other, other ∈ (Scan.ofSource config source).identifiers ↔
      other = line.name ∨ other ∈ (Scan.ofSource config (withoutLine source i)).identifiers := by
  have hcode := line.isCodeLine hqualifier
  have hclass := line.classify_text hqualifier (fun _ => hname) rfl hopener
  have hexactly : ∀ other, other ∈ (Scan.ofSource config source).identifiers ↔
      other = line.name ∨ other ∈ (Scan.ofSource config (withoutLine source i)).identifiers :=
    fun other => mem_identifiers_iff_of_declaration hline hcode hclass
  exact ⟨(hexactly _).mpr (.inl rfl), lineNumber_ne_of_declaration hline hcode hclass, hexactly⟩

/-- A line with an array suffix, two attributes and an initializer, each of which could be taken
for the end of the declaration. -/
def tabLine : DeclarationLine where
  margin := ['\t']
  qualified := some [' ', ' ']
  type := "unsigned char *".toList
  name := "tab".toList
  suffix := some ([' '], "(ROWS)".toList)
  attributes := [
    ([' '], "__attribute__((aligned(8), section(\"=;\")))".toList),
    ([' '], "__attribute__ ((used))".toList)]
  gap := [' ']
  initializer := some " other[1] __attribute__((x))".toList
  ending := [' ']
  comment := some " int last; */".toList
  margin_blank := by decide +kernel
  qualified_blank := by decide +kernel
  isTypeText_type := by decide +kernel
  isIdentifier_name := by decide +kernel
  suffix_plain := by decide +kernel
  attributes_spaced := by
    have hsection : Declaration.IsAttribute "__attribute__((aligned(8), section(\"=;\")))".toList :=
      ⟨[], "aligned(8), section(\"=;\")".toList, List.forall_mem_nil _, by decide +kernel,
        by decide +kernel⟩
    have hused : Declaration.IsAttribute "__attribute__ ((used))".toList :=
      ⟨[' '], "used".toList, isBlank_of_mem_space, by decide +kernel, by decide +kernel⟩
    refine List.forall_mem_cons.mpr ⟨?_, List.forall_mem_singleton.mpr ?_⟩
    · exact ⟨List.cons_ne_nil _ _, isBlank_of_mem_space, hsection⟩
    · exact ⟨List.cons_ne_nil _ _, isBlank_of_mem_space, hused⟩
  gap_blank := isBlank_of_mem_space
  ending_blank := isBlank_of_mem_space

/-- That line in a header, between a function and another declaration. -/
theorem tab_relocated :
    let source := Text.unlines ["static int init (void);".toList, tabLine.text "static".toList,
      "static int last;".toList]
    "tab".toList ∈ (Scan.ofSource {} source).identifiers ∧
    (∀ skipped ∈ (Scan.ofSource {} source).skipped, skipped.lineNumber ≠ 2) ∧
    ∀ other, other ∈ (Scan.ofSource {} source).identifiers ↔
      other = "tab".toList ∨ other ∈ (Scan.ofSource {} (withoutLine source 1)).identifiers :=
  declaration_relocated tabLine (by decide +kernel) (by decide +kernel) (by decide +kernel)
    (by decide +kernel)

end StateOverlay
