/-
Texts with attributes in them.

A text can hold any number of attributes, anywhere, as long as the parts between them do not hold
the word of an attribute.  Such a part may go on with an attribute in the middle of a word, or end
in the beginning of the word: the attribute is found where its own word begins, and it ends with its
own body.  So a declarator is read from the parts alone.

* `Attributed` — a text with attributes in it, and its parts without them;
* `Attributed.removeAttributes_eq` — removing the attributes leaves the parts;
* `declarator_of_attributed` — the declarator of a text with attributes in it.
-/
import StateOverlay.Proofs.Declaration.Declarator

namespace StateOverlay.Declaration

/-- A text with attributes in it, and the text that its parts make without them.  No part holds the
word of an attribute. -/
inductive Attributed : Text → Text → Prop
  | plain {part : Text} (hpart : ¬ attributeWord <:+: part) : Attributed part part
  | attr {part attr s bare : Text} (hpart : ¬ attributeWord <:+: part) (hattr : IsAttribute attr)
      (hrest : Attributed s bare) : Attributed (part ++ (attr ++ s)) (part ++ bare)

theorem Attributed.removeAttributes_eq {s bare : Text} (h : Attributed s bare) :
    removeAttributes s = bare := by
  induction h with
  | @plain part hpart =>
    have hkept := @removeAttributes_wordless_append part [] hpart (.inl rfl)
    rwa [List.append_nil, removeAttributes, List.append_nil] at hkept
  | @attr part attr s bare hpart hattr _ ih =>
    -- the part goes on with the word of the attribute, and that with no word character
    have hrun := takeWhile_isWord_of_afterAttribute? (hattr.afterAttribute?_append s)
    rw [removeAttributes_wordless_append hpart (.inr hrun), hattr.removeAttributes_append, ih]

/-- **Exactly the attributes are removed from a declarator**: where no qualifier is dropped, it is
the text of the parts between the attributes, up to the first equals sign there and trimmed.  What
the attributes hold in their bodies, equals signs too, makes no difference. -/
theorem declarator_of_attributed {qualifier s bare : Text} (h : Attributed s bare)
    (hqualifier : ∀ c rest, s = qualifier ++ c :: rest → isBlank c = false) :
    declarator qualifier s = Text.trim (bare.takeWhile (· != '=')) := by
  rw [declarator, afterQualifier?_eq_none_iff.mpr hqualifier, Option.getD_none,
    h.removeAttributes_eq]

/-- Two attributes, one with an equals sign and an open bracket in its body, and the other behind a
part that ends in the beginning of its word. -/
theorem declarator_of_attributed_word :
    let placed := "__attribute__ ((section(\"=;[\")))".toList
    let aligned := "__attribute__((aligned(8)))".toList
    let s := "char ".toList ++ (placed ++ ("b__attribute".toList ++ (aligned ++ "[4] = 0".toList)))
    Attributed s ("char ".toList ++ ("b__attribute".toList ++ "[4] = 0".toList)) ∧
      (∀ c rest, s = "static".toList ++ c :: rest → isBlank c = false) ∧
      declarator "static".toList s = "char b__attribute[4]".toList := by
  intro placed aligned s
  have hsection : IsAttribute placed :=
    ⟨[' '], "section(\"=;[\")".toList, isBlank_of_mem_space, by decide +kernel, by decide +kernel⟩
  have haligned : IsAttribute aligned :=
    ⟨[], "aligned(8)".toList, List.forall_mem_nil _, by decide +kernel, by decide +kernel⟩
  have hs : Attributed s ("char ".toList ++ ("b__attribute".toList ++ "[4] = 0".toList)) :=
    .attr (by decide +kernel) hsection
      (.attr (by decide +kernel) haligned (.plain (by decide +kernel)))
  have hqualifier : ∀ c rest, s = "static".toList ++ c :: rest → isBlank c = false := by
    rintro c rest heq
    cases congrArg List.head? heq
  refine ⟨hs, hqualifier, (declarator_of_attributed hs hqualifier).trans ?_⟩
  decide +kernel

end StateOverlay.Declaration
