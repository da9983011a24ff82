/-
Declarators and the names at their ends.

A declarator is a type and a name, with one array suffix at most.  The type is made of words, white
space and stars and ends in white space or a star, so that no name that begins inside it reaches to
the end of the declarator: the name at the end is the declared one.  Dropping the qualifier, where
a declaration begins with it, leaves a type and a name again.

* `IsTypeText`, `IsArraySuffix` — the parts around the name;
* `NamesToEnd`, `trailingNameAt?_eq_some_iff` — the name at the end of a text, with its suffix;
* `exists_unqualified` — a declaration without its qualifier goes on to its name as before;
* `trailingName?_of_type` — the name behind a type is found, an array suffix aside;
* `trailingName?_of_end` — a name that ends a text is found behind anything that ends no word.
-/
import StateOverlay.Proofs.Declaration.Attributes

namespace StateOverlay.Declaration

/-! ### Types -/

/-- The text of a type: words, white space and stars, with white space or a star at its end. -/
structure IsTypeText (s : Text) : Prop where
  all : ∀ c ∈ s, isWord c = true ∨ isBlank c = true ∨ c = '*'
  last : ∀ c ∈ s.getLast?, isBlank c = true ∨ c = '*'

instance : DecidablePred IsTypeText := fun s =>
  decidable_of_iff ((∀ c ∈ s, isWord c = true ∨ isBlank c = true ∨ c = '*') ∧
      ∀ c ∈ s.getLast?.toList, isBlank c = true ∨ c = '*')
    ⟨fun h => ⟨h.1, fun c hc => h.2 c (Option.mem_toList.mpr hc)⟩,
      fun h => ⟨h.all, fun c hc => h.last c (Option.mem_toList.mp hc)⟩⟩

theorem IsTypeText.of_suffix {s t : Text} (h : IsTypeText s) (hsuffix : t <:+ s) :
    IsTypeText t := by
  refine ⟨fun c hc => h.all c (hsuffix.subset hc), fun c hc => h.last c ?_⟩
  obtain ⟨front, rfl⟩ := hsuffix
  rw [List.getLast?_append, hc]
  rfl

theorem IsTypeText.isWord_last {s : Text} (h : IsTypeText s) {c : Char}
    (hc : s.getLast? = some c) : isWord c = false := by
  rcases h.last c hc with hblank | rfl
  · exact isWord_of_isBlank hblank
  · decide

/-- A character that is no part of a word, no white space and no star stands in no type. -/
theorem IsTypeText.not_mem {s : Text} (h : IsTypeText s) {c : Char} (hword : isWord c = false)
    (hblank : isBlank c = false) (hstar : c ≠ '*') : c ∉ s := by
  intro hc
  rcases h.all c hc with hfound | hfound | hfound
  · cases hword.symm.trans hfound
  · cases hblank.symm.trans hfound
  · exact hstar hfound

/-! ### The qualifier -/

theorem afterQualifier?_append {qualifier gap rest : Text} (hne : gap ≠ [])
    (hgap : ∀ c ∈ gap, isBlank c) :
    afterQualifier? qualifier (qualifier ++ (gap ++ rest)) = some (Text.trimStart rest) := by
  obtain ⟨c, gap, rfl⟩ := List.exists_cons_of_ne_nil hne
  rw [List.forall_mem_cons] at hgap
  rw [afterQualifier?, isPrefixOf?_eq_some_iff.mpr rfl]
  show (if isBlank c then some (Text.trimStart (gap ++ rest)) else none) = _
  rw [if_pos hgap.1, Text.trimStart, List.dropWhile_append_of_pos hgap.2]
  rfl

/-- A text from which the qualifier is dropped begins with it and with white space. -/
theorem exists_of_afterQualifier? {qualifier s rest : Text}
    (h : afterQualifier? qualifier s = some rest) :
    ∃ gap, gap ≠ [] ∧ (∀ c ∈ gap, isBlank c) ∧ s = qualifier ++ (gap ++ rest) ∧
      ∀ c, rest.head? = some c → isBlank c = false := by
  rw [afterQualifier?] at h
  split at h
  · case h_1 c inner hprefix =>
    split at h
    · case isTrue hc =>
      cases h
      obtain ⟨gap, hgap, hinner⟩ := exists_blanks_append_trimStart inner
      refine ⟨c :: gap, List.cons_ne_nil _ _, List.forall_mem_cons.mpr ⟨hc, hgap⟩, ?_, ?_⟩
      · rw [isPrefixOf?_eq_some_iff.mp hprefix, List.cons_append, ← hinner]
      · exact fun d hd => isBlank_of_head?_trimStart hd
    · cases h
  · cases h

/-- No qualifier is dropped exactly from the texts that do not begin with it and white space. -/
theorem afterQualifier?_eq_none_iff {qualifier s : Text} :
    afterQualifier? qualifier s = none ↔
      ∀ c rest, s = qualifier ++ c :: rest → isBlank c = false := by
  constructor
  · rintro hnone c rest rfl
    by_contra hc
    have hgap : ∀ d ∈ [c], isBlank d = true := by simpa using hc
    cases hnone.symm.trans (afterQualifier?_append (List.cons_ne_nil c []) hgap)
  · intro h
    by_contra hfound
    obtain ⟨left, hfound⟩ := Option.ne_none_iff_exists'.mp hfound
    obtain ⟨gap, hne, hgap, hs, _⟩ := exists_of_afterQualifier? hfound
    obtain ⟨c, gap, rfl⟩ := List.exists_cons_of_ne_nil hne
    cases (h c (gap ++ left) hs).symm.trans (hgap c List.mem_cons_self)

/-- White space in front of a type and a name is dropped with that of the type. -/
theorem trimStart_type_append {type name : Text} (hname : IsIdentifier name) (tail : Text) :
    Text.trimStart (type ++ (name ++ tail)) = Text.trimStart type ++ (name ++ tail) := by
  apply trimStart_append
  intro c hc
  obtain ⟨first, word, rfl, hfirst, _⟩ := hname.exists_cons
  cases hc
  exact isBlank_of_isNameStart hfirst

/-- A declaration goes on to its name as before once the qualifier is dropped, if anything in front
of the name ends no word and the name is not taken for the qualifier. -/
theorem exists_unqualified {qualifier front name tail : Text} (hqualifier : IsIdentifier qualifier)
    (hname : IsIdentifier name) (hlast : ∀ c ∈ front.getLast?, isWord c = false)
    (hne : front = [] → name ≠ qualifier) (htail : ∀ c, tail.head? = some c → isWord c = false) :
    ∃ shorter, shorter <:+ front ∧
      (afterQualifier? qualifier (front ++ (name ++ tail))).getD (front ++ (name ++ tail))
        = shorter ++ (name ++ tail) := by
  cases hafter : afterQualifier? qualifier (front ++ (name ++ tail)) with
  | none => exact ⟨front, List.suffix_rfl, rfl⟩
  | some rest =>
    obtain ⟨gap, hgapNe, hgap, hsplit, hrest⟩ := exists_of_afterQualifier? hafter
    rcases List.append_eq_append_iff.mp hsplit with ⟨more, hmore, hnamed⟩ | ⟨more, hmore, hbehind⟩
    · -- the front would end inside the qualifier, so that there is none, and the name is it
      have hnil : front = [] := by
        by_contra hfrontNe
        have hend := hlast _ (List.getLast?_eq_some_getLast hfrontNe)
        have hmem : front.getLast hfrontNe ∈ qualifier :=
          hmore ▸ List.mem_append_left more (List.getLast_mem hfrontNe)
        cases hend.symm.trans (hqualifier.isWord_of_mem _ hmem)
      refine absurd ?_ (hne hnil)
      rw [hnil, List.nil_append] at hmore
      have hstop := isWord_head?_blanks hgapNe hgap rest
      have hread := name?_append hname htail
      rw [hnamed, ← hmore, name?_append hqualifier hstop] at hread
      cases hread
      rfl
    · refine ⟨Text.trimStart more, ?_, ?_⟩
      · exact (List.dropWhile_suffix _).trans ⟨qualifier, hmore.symm⟩
      · rw [Option.getD_some, ← trimStart_type_append hname, ← hbehind,
          trimStart_blanks_append hgap hrest]

/-! ### Names at the end -/

/-- One array suffix, behind white space if any. -/
def IsArraySuffix (s : Text) : Prop :=
  ∃ gap dim, (∀ c ∈ gap, isBlank c) ∧ ']' ∉ dim ∧ s = gap ++ '[' :: (dim ++ [']'])

theorem IsArraySuffix.isArraySuffix {s : Text} (h : IsArraySuffix s) : isArraySuffix s = true := by
  obtain ⟨gap, dim, hgap, hdim, rfl⟩ := h
  have hopen : Text.trimStart (gap ++ '[' :: (dim ++ [']'])) = '[' :: (dim ++ [']']) :=
    trimStart_blanks_cons hgap (by decide) _
  have hclose : (dim ++ [']']).dropWhile (· != ']') = [']'] := by
    rw [List.dropWhile_append_of_pos]
    · rfl
    · intro c hc
      simp only [bne_iff_ne, ne_eq]
      rintro rfl
      exact hdim hc
  rw [Declaration.isArraySuffix, hopen]
  simp [hclose]

/-- What is taken for an array suffix is one. -/
theorem isArraySuffix_iff {s : Text} : isArraySuffix s = true ↔ IsArraySuffix s := by
  refine ⟨fun h => ?_, IsArraySuffix.isArraySuffix⟩
  rw [Declaration.isArraySuffix] at h
  split at h
  · case h_1 rest hopen =>
    obtain ⟨gap, hgap, hs⟩ := exists_blanks_append_trimStart s
    refine ⟨gap, rest.takeWhile (· != ']'), hgap, ?_, ?_⟩
    · intro hclose
      simpa using List.mem_takeWhile_imp hclose
    · rw [← beq_iff_eq.mp h, List.takeWhile_append_dropWhile, ← hopen, ← hs]
  · cases h

/-- An array suffix opens a bracket behind white space if any, and ends in the bracket that closes
it. -/
theorem IsArraySuffix.ends {s : Text} (h : IsArraySuffix s) :
    (Text.trimStart s).head? = some '[' ∧ s.getLast? = some ']' := by
  obtain ⟨gap, dim, hgap, _, rfl⟩ := h
  constructor
  · rw [Text.trimStart, List.dropWhile_append_of_pos hgap]
    rfl
  · rw [← List.cons_append, ← List.append_assoc]
    exact List.getLast?_concat

theorem IsArraySuffix.isWord_head {s : Text} (h : IsArraySuffix s) {c : Char}
    (hc : s.head? = some c) : isWord c = false := by
  obtain ⟨gap, dim, hgap, _, rfl⟩ := h
  refine isWord_head?_blanks_append hgap ?_ c hc
  rintro d ⟨rfl⟩
  decide

/-- A text that is a name and, behind it, one array suffix if anything. -/
def NamesToEnd (name s : Text) : Prop :=
  IsIdentifier name ∧ ∃ suffix, s = name ++ suffix ∧ (suffix = [] ∨ IsArraySuffix suffix)

/-- The reader of names at the end answers exactly on a name that reaches to the end. -/
theorem trailingNameAt?_eq_some_iff {s name : Text} :
    trailingNameAt? s = some name ↔ NamesToEnd name s := by
  have hend : ∀ rest : Text, (rest.isEmpty || isArraySuffix rest) = true ↔
      rest = [] ∨ IsArraySuffix rest := by
    intro rest
    rw [Bool.or_eq_true, List.isEmpty_iff, isArraySuffix_iff]
  simp only [trailingNameAt?, Option.bind_eq_bind, Option.bind_eq_some_iff,
    Option.ite_none_right_eq_some, hend, Prod.exists, Option.some_inj]
  constructor
  · rintro ⟨word, rest, hread, hrest, rfl⟩
    obtain ⟨hname, hsplit⟩ := isIdentifier_of_name? hread
    exact ⟨hname, rest, hsplit, hrest⟩
  · rintro ⟨hname, suffix, rfl, hsuffix⟩
    refine ⟨name, suffix, name?_append hname fun c hc => ?_, hsuffix, rfl⟩
    rcases hsuffix with rfl | hsuffix
    · cases hc
    · exact hsuffix.isWord_head hc

/-- A name that reaches to the end of a text, or its suffix, ends it. -/
theorem NamesToEnd.last {name s : Text} (h : NamesToEnd name s) {front : Text} {c : Char}
    (hc : (front ++ s).getLast? = some c) : isWord c = true ∨ c = ']' := by
  obtain ⟨hname, suffix, rfl, rfl | hsuffix⟩ := h
  · rw [List.append_nil] at hc
    exact .inl (hname.isWord_last hc)
  · rw [List.getLast?_append, List.getLast?_append, hsuffix.ends.2] at hc
    exact .inr (Option.some.inj hc).symm

/-- No name that begins a text reaches to its end, if the text ends no word and goes on with no
array suffix. -/
theorem trailingNameAt?_eq_none {s tail : Text} (hne : s ≠ [])
    (hlast : ∀ c, s.getLast? = some c → isWord c = false)
    (hsuffix : ∀ inner, inner <:+ s → inner ≠ [] → ¬ IsArraySuffix (inner ++ tail)) :
    trailingNameAt? (s ++ tail) = none := by
  rw [Option.eq_none_iff_forall_ne_some]
  intro word hread
  obtain ⟨hword, rest, hsplit, hrest⟩ := trailingNameAt?_eq_some_iff.mp hread
  have hnotWord : s.getLast hne ∉ word := by
    intro hmem
    have hlast := hlast _ (List.getLast?_eq_some_getLast hne)
    cases hlast.symm.trans (hword.isWord_of_mem _ hmem)
  -- the word ends inside the text, and what is left of the text follows it
  rcases List.append_eq_append_iff.mp hsplit with ⟨more, hmore, _⟩ | ⟨inner, hinner, rfl⟩
  · exact absurd (hmore ▸ List.mem_append_left more (List.getLast_mem hne)) hnotWord
  · have hinnerNe : inner ≠ [] := by
      rintro rfl
      rw [List.append_nil] at hinner
      exact hnotWord (hinner ▸ List.getLast_mem hne)
    rcases hrest with hempty | hbracket
    · exact hinnerNe (List.append_eq_nil_iff.mp hempty).1
    · exact hsuffix inner ⟨word, hinner.symm⟩ hinnerNe hbracket

/-- A name is found at the end of a text if no name in front of it reaches as far. -/
theorem trailingName?_append {front name suffix : Text} (hname : IsIdentifier name)
    (hsuffix : suffix = [] ∨ IsArraySuffix suffix)
    (hlast : ∀ c, front.getLast? = some c → isWord c = false)
    (hfront : ∀ inner, inner <:+ front → inner ≠ [] →
      ¬ IsArraySuffix (inner ++ (name ++ suffix))) :
    trailingName? (front ++ (name ++ suffix)) = some name := by
  have hfound : trailingNameAt? (name ++ suffix) = some name :=
    trailingNameAt?_eq_some_iff.mpr ⟨hname, suffix, rfl, hsuffix⟩
  have hsearch : search trailingNameAt? (name ++ suffix) = some ([], name) :=
    search_eq_some_iff.mpr ⟨_, rfl, hfound, fun _ _ _ hlength => absurd hlength (by simp)⟩
  rw [trailingName?, search_append_of_none, hsearch]
  · rfl
  · intro before after hsplit hafter
    have hsuffixOf : after <:+ front := ⟨before, hsplit.symm⟩
    refine trailingNameAt?_eq_none hafter (fun c hc => hlast c ?_) fun inner hinner =>
      hfront inner (hinner.trans hsuffixOf)
    rw [hsplit, List.getLast?_append, hc]
    rfl

/-- The name behind a type is found, an array suffix aside. -/
theorem trailingName?_of_type {type name suffix : Text} (htype : IsTypeText type)
    (hname : IsIdentifier name) (hsuffix : suffix = [] ∨ IsArraySuffix suffix) :
    trailingName? (type ++ (name ++ suffix)) = some name := by
  refine trailingName?_append hname hsuffix (fun c => htype.isWord_last) fun inner hinner _ hbracket => ?_
  -- neither the type nor the name opens a bracket
  rcases head?_trimStart_append hbracket.ends.1 with hmem | hopen
  · exact htype.not_mem (by decide) (by decide) (by decide) (hinner.subset hmem)
  · obtain ⟨c, word, rfl, hc, _⟩ := hname.exists_cons
    rw [trimStart_identifier hname] at hopen
    cases hopen
    cases hc

/-- A name that ends a text is found behind anything that ends no word. -/
theorem trailingName?_of_end {front name : Text} (hname : IsIdentifier name)
    (hlast : ∀ c, front.getLast? = some c → isWord c = false) :
    trailingName? (front ++ name) = some name := by
  have hfound := @trailingName?_append front name [] hname (.inl rfl) hlast ?_
  · rwa [List.append_nil] at hfound
  · intro inner _ _ hbracket
    -- a name ends in no bracket
    have hclose := hbracket.ends.2
    rw [List.append_nil] at hclose
    cases hname.isWord_last hclose

end StateOverlay.Declaration
