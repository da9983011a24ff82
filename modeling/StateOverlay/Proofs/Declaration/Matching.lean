/-
What the searches of a declaration accept.

A record initializer and the name at the end of a declarator are searched for by trying a reader at
one place of the text after another, from the left.  What each of the two readers answers on is a
grammar, and a text is read by it in one way at most.  So a search answers exactly if the grammar
matches somewhere, and then with the reading at the leftmost place where it does:

* `Leftmost` — the first place of a text from which on it has some property;
* `Accepts`, `Accepts.of_search` — a matcher that answers with the leftmost reading of a grammar;
* `recordAt?_eq_some_iff`, `record_matcher_accepts` — record initializers;
* `trailingName?_of_two_suffixes`, `name_matcher_accepts` — names at the end, with what has none.
-/
import StateOverlay.Proofs.Declaration.Prototypes
import StateOverlay.Proofs.Declaration.Records

namespace StateOverlay.Declaration

/-! ### Leftmost readings -/

/-- The first place of a text from which on it has some property: what stands in front of it, and
the rest, which is the longest with the property. -/
structure Leftmost (holds : Text → Prop) (s front rest : Text) : Prop where
  split : s = front ++ rest
  here : holds rest
  first : ∀ before after, s = before ++ after → holds after → front.length ≤ before.length

/-- A matcher that answers with what a grammar reads at the leftmost place where it reads anything.
The grammar is given by what it reads a text as, at the front of the text. -/
structure Accepts {α : Type} (matcher : Text → Option α) (reads : α → Text → Prop) : Prop where
  some_iff : ∀ s answer, matcher s = some answer ↔
    ∃ front rest, Leftmost (fun t => ∃ a, reads a t) s front rest ∧ reads answer rest
  none_iff : ∀ s, matcher s = none ↔
    ∀ front rest, s = front ++ rest → ∀ answer, ¬ reads answer rest
  unique : ∀ s answer answer', reads answer s → reads answer' s → answer = answer'

/-- The search with a reader accepts the grammar that the reader decides. -/
theorem Accepts.of_search {α : Type} {read : Text → Option α} {reads : α → Text → Prop}
    (hread : ∀ s answer, read s = some answer ↔ reads answer s) :
    Accepts (fun s => (search read s).map Prod.snd) reads := by
  have hnone : ∀ s, read s = none ↔ ∀ answer, ¬ reads answer s := by
    intro s
    rw [Option.eq_none_iff_forall_ne_some]
    exact forall_congr' fun answer => not_congr (hread s answer)
  refine ⟨fun s answer => ?_, fun s => ?_, fun s answer answer' h h' => ?_⟩
  · simp only [Option.map_eq_some_iff, Prod.exists, exists_eq_right]
    refine exists_congr fun front => ?_
    rw [search_eq_some_iff]
    refine exists_congr fun rest => ?_
    constructor
    · rintro ⟨hs, hanswer, hfirst⟩
      rw [hread] at hanswer
      refine ⟨⟨hs, ⟨answer, hanswer⟩, fun before after hsplit ⟨a, ha⟩ => ?_⟩, hanswer⟩
      by_contra hlt
      exact (hnone after).mp (hfirst before after hsplit (Nat.lt_of_not_le hlt)) a ha
    · rintro ⟨⟨hs, _, hfirst⟩, hanswer⟩
      refine ⟨hs, (hread rest answer).mpr hanswer, fun before after hsplit hlt => ?_⟩
      rw [hnone]
      exact fun a ha => Nat.not_le_of_lt hlt (hfirst before after hsplit ⟨a, ha⟩)
  · rw [Option.map_eq_none_iff, search_eq_none_iff]
    exact forall_congr' fun front => forall_congr' fun rest => imp_congr_right fun _ => hnone rest
  · exact Option.some.inj (((hread s answer).mpr h).symm.trans ((hread s answer').mpr h'))

/-! ### Record initializers -/

section Record

variable {qualifier tag : Text}

/-- The reader of record initializers answers exactly on those, if the tag cannot be taken for white
space in front of it. -/
theorem recordAt?_eq_some_iff (htagNe : tag ≠ [])
    (htag : ∀ c, tag.head? = some c → isBlank c = false) {s name contents : Text} :
    recordAt? qualifier tag s = some (name, contents) ↔
      BeginsRecord qualifier tag name contents s :=
  ⟨beginsRecord_of_recordAt?, fun h => h.recordAt? htagNe htag⟩

/-- **The search for a record initializer accepts exactly its grammar**: the qualifier, the tag and
a name, with white space in between, an equals sign and braces around contents without a closing
one, each behind white space if any.  It answers at the leftmost place where such an initializer
begins, with the name and the contents that there are. -/
theorem record_matcher_accepts (htagNe : tag ≠ [])
    (htag : ∀ c, tag.head? = some c → isBlank c = false) :
    Accepts (record? qualifier tag) fun found => BeginsRecord qualifier tag found.1 found.2 :=
  .of_search fun _ _ => recordAt?_eq_some_iff htagNe htag

/-- A qualifier and a tag of characters that patterns are written with, in a text where another
initializer breaks off in front of the one that is found. -/
theorem record_matcher_accepts_marks :
    let qualifier := ".*".toList
    let tag := "[a]+".toList
    let s := ".*.* [a]+ 9, .*\t[a]+ g =".toList ++ ['{', 'p', ',', ' ', '{', '}']
    ∃ front rest,
      Leftmost (fun t => ∃ found : Text × Text, BeginsRecord qualifier tag found.1 found.2 t) s
        front rest ∧
      BeginsRecord qualifier tag ['g'] ['p', ',', ' ', '{'] rest := by
  intro qualifier tag s
  have htag : ∀ c, tag.head? = some c → isBlank c = false := by
    rintro c ⟨rfl⟩
    decide
  have haccepts := @record_matcher_accepts qualifier tag (by decide) htag
  exact (haccepts.some_iff s (['g'], ['p', ',', ' ', '{'])).mp (by decide +kernel)

end Record

/-! ### Names at the end -/

theorem trailingName?_accepts : Accepts trailingName? NamesToEnd :=
  .of_search fun _ _ => trailingNameAt?_eq_some_iff

/-- Where a character stands first in a text, and where it stands at all. -/
theorem eq_or_exists_of_append_cons {c : Char} {s t s' t' : Text} (h : s ++ c :: t = s' ++ c :: t')
    (hs' : c ∉ s') : (s = s' ∧ t = t') ∨ ∃ inner, s = s' ++ c :: inner ∧ t' = inner ++ c :: t := by
  rcases List.append_eq_append_iff.mp h with ⟨more, rfl, hmore⟩ | ⟨more, rfl, hmore⟩
  · cases more with
    | nil => exact .inl ⟨(List.append_nil s).symm, (List.cons.inj hmore).2⟩
    | cons d more =>
      obtain ⟨rfl, _⟩ := List.cons.inj hmore
      exact absurd (List.mem_append_right s List.mem_cons_self) hs'
  · cases more with
    | nil => exact .inl ⟨List.append_nil s', (List.cons.inj hmore).2.symm⟩
    | cons d more =>
      obtain ⟨rfl, ht'⟩ := List.cons.inj hmore
      exact .inr ⟨more, rfl, ht'⟩

/-- A text that ends in a name does not end in a bracket. -/
theorem append_name_ne {name : Text} (hname : IsIdentifier name) (before front : Text) :
    before ++ name ≠ front ++ [']'] := by
  intro heq
  have hend := congrArg List.getLast? heq
  rw [List.getLast?_concat] at hend
  cases hname.isWord_last hend

/-- No name that begins in front of the last bracket that two array suffixes open reaches to their
end. -/
theorem not_namesToEnd_of_two_suffixes {front space first gap dim before after name : Text}
    (hgap : ∀ c ∈ gap, isBlank c)
    (hsplit : front ++ (space ++ '[' :: (first ++ [']'])) ++ (gap ++ ['[']) = before ++ after)
    (hafter : after ≠ []) : ¬ NamesToEnd name (after ++ (dim ++ [']'])) := by
  rintro ⟨hname, found, heq, hfound⟩
  -- the place where the name begins is in front of the bracket
  obtain ⟨inside, rfl⟩ : ∃ inside, after = inside ++ ['['] := by
    have hend := congrArg List.getLast? hsplit
    rw [← List.append_assoc, List.getLast?_concat, List.getLast?_append_of_ne_nil _ hafter] at hend
    exact List.getLast?_eq_some_iff.mp hend.symm
  have hinside : front ++ (space ++ '[' :: first) ++ ']' :: gap = before ++ inside := by
    rw [← List.append_left_inj ['[']]
    simpa using hsplit
  rcases hfound with rfl | ⟨gap', dim', hgap', hdim', rfl⟩
  · refine append_name_ne hname [] (inside ++ '[' :: dim) ?_
    rw [List.append_nil] at heq
    rw [List.nil_append, ← heq]
    simp
  · -- the bracket behind the name is the first one that opens
    have hopen : inside ++ '[' :: dim = name ++ gap' ++ '[' :: dim' := by
      rw [← List.append_left_inj [']']]
      simpa using heq
    have hnone : '[' ∉ name ++ gap' := by
      rw [List.mem_append]
      rintro (hmem | hmem)
      · exact hname.not_mem (by decide) (by decide) hmem
      · cases hgap' _ hmem
    rcases eq_or_exists_of_append_cons hopen hnone with ⟨rfl, _⟩ | ⟨inner, rfl, rfl⟩
    · -- the name ends where the first suffix does, white space aside
      refine append_name_ne hname before (front ++ (space ++ '[' :: first)) ?_
      have hnamed : Text.trimEnd (before ++ name ++ gap') = before ++ name := by
        rw [trimEnd_append_blanks hgap']
        exact trimEnd_eq_self fun c hc => isBlank_of_isWord (hname.isWord_last hc)
      rw [← hnamed, List.append_assoc before, ← hinside, List.append_cons,
        trimEnd_append_blanks hgap]
      refine trimEnd_eq_self fun c hc => ?_
      rw [List.getLast?_concat] at hc
      cases hc
      decide
    · rw [← List.append_assoc before] at hinside
      rcases List.append_eq_append_iff.mp hinside with ⟨more, _, hmore⟩ | ⟨more, _, hmore⟩
      · -- the white space between the suffixes would hold a bracket
        have hmem : '[' ∈ ']' :: gap := hmore ▸ List.mem_append_right more List.mem_cons_self
        rcases List.mem_cons.mp hmem with heq | hmem
        · cases heq
        · cases hgap _ hmem
      · -- the dimension would close the first suffix
        have hmem : ']' ∈ '[' :: inner := hmore ▸ List.mem_append_right more List.mem_cons_self
        rcases List.mem_cons.mp hmem with heq | hmem
        · cases heq
        · exact hdim' (List.mem_append_left _ hmem)

/-- Nothing is named in front of a bracket that closes and was not opened. -/
theorem trailingName?_of_unopened {dim : Text} (hdim : '[' ∉ dim) :
    trailingName? (dim ++ [']']) = none := by
  rw [trailingName?_accepts.none_iff]
  rintro before rest hsplit name ⟨hname, suffix, rfl, rfl | ⟨gap, found, _, _, rfl⟩⟩
  · rw [List.append_nil] at hsplit
    exact append_name_ne hname before dim hsplit.symm
  · have hmem : '[' ∈ dim ++ [']'] := by
      rw [hsplit]
      simp
    rcases List.mem_append.mp hmem with hmem | hmem
    · exact hdim hmem
    · cases List.mem_singleton.mp hmem

/-- A name at the end of two array suffixes stands inside the second, behind a bracket that opens
there. -/
theorem trailingName?_of_two_suffixes {front suffix gap dim : Text} (hsuffix : IsArraySuffix suffix)
    (hgap : ∀ c ∈ gap, isBlank c) :
    trailingName? (front ++ suffix ++ (gap ++ '[' :: (dim ++ [']']))) =
      if '[' ∈ dim then trailingName? (dim ++ [']']) else none := by
  have hinside : trailingName? (front ++ suffix ++ (gap ++ '[' :: (dim ++ [']']))) =
      trailingName? (dim ++ [']']) := by
    obtain ⟨space, first, _, _, rfl⟩ := hsuffix
    have hfront : front ++ (space ++ '[' :: (first ++ [']'])) ++ (gap ++ '[' :: (dim ++ [']']))
        = front ++ (space ++ '[' :: (first ++ [']'])) ++ (gap ++ ['[']) ++ (dim ++ [']']) := by
      simp
    rw [trailingName?, trailingName?, hfront]
    refine search_append_of_none fun before after hsplit hafter => ?_
    rw [Option.eq_none_iff_forall_ne_some]
    exact fun name hread => not_namesToEnd_of_two_suffixes hgap hsplit hafter
      (trailingNameAt?_eq_some_iff.mp hread)
  split
  · exact hinside
  · case isFalse hdim => rw [hinside, trailingName?_of_unopened hdim]

/-- A text that ends in a run of word characters ends in no name if none of them can begin one. -/
theorem trailingName?_of_nameless {front run : Text} (hne : run ≠ [])
    (hrun : ∀ c ∈ run, isWord c = true ∧ isNameStart c = false)
    (hfront : ∀ c, front.getLast? = some c → isWord c = false) :
    trailingName? (front ++ run) = none := by
  rw [trailingName?_accepts.none_iff]
  rintro before rest hsplit name ⟨hname, suffix, rfl, rfl | hsuffix⟩
  · rw [List.append_nil] at hsplit
    obtain ⟨first, word, rfl, hfirst, _⟩ := hname.exists_cons
    rcases List.append_eq_append_iff.mp hsplit with ⟨more, _, hmore⟩ | ⟨more, rfl, hmore⟩
    · -- the name would begin inside the run
      have hmem : first ∈ run := hmore ▸ List.mem_append_right more List.mem_cons_self
      cases hfirst.symm.trans (hrun first hmem).2
    · cases hlast : more.getLast? with
      | none =>
        rw [List.getLast?_eq_none_iff.mp hlast, List.nil_append] at hmore
        cases hfirst.symm.trans (hrun first (hmore ▸ List.mem_cons_self)).2
      | some c =>
        have hword : isWord c = true :=
          hname.isWord_of_mem c (hmore ▸ List.mem_append_left run (List.mem_of_getLast? hlast))
        have hend : (before ++ more).getLast? = some c := by
          rw [List.getLast?_append, hlast]
          rfl
        cases hword.symm.trans (hfront c hend)
  · -- an array suffix ends in no word character
    have hend := congrArg List.getLast? hsplit
    rw [← List.append_assoc, List.getLast?_append, List.getLast?_append, hsuffix.ends.2,
      List.getLast?_eq_some_getLast hne] at hend
    have hlast : run.getLast hne = ']' := Option.some.inj hend
    have hword := (hrun _ (List.getLast_mem hne)).1
    rw [hlast] at hword
    exact absurd hword (by decide)

/-- **The search for the name at the end of a declarator accepts exactly its grammar**: a name and,
behind it, one array suffix if anything, up to the end of the text.  It answers at the leftmost
place where such a name begins, and gives none where there is none: so behind two array suffixes,
where only the inside of the second can hold a name, and only behind a bracket that opens there;
behind a closing parenthesis; and behind a number that stands alone, or any run of word characters
in which no name can begin. -/
theorem name_matcher_accepts :
    Accepts trailingName? NamesToEnd ∧
    (∀ front suffix gap dim, IsArraySuffix suffix → (∀ c ∈ gap, isBlank c) →
      trailingName? (front ++ suffix ++ (gap ++ '[' :: (dim ++ [']']))) =
        if '[' ∈ dim then trailingName? (dim ++ [']']) else none) ∧
    (∀ front, trailingName? (front ++ [')']) = none) ∧
    ∀ front run, run ≠ [] → (∀ c ∈ run, isWord c = true ∧ isNameStart c = false) →
      (∀ c, front.getLast? = some c → isWord c = false) → trailingName? (front ++ run) = none := by
  refine ⟨trailingName?_accepts, ?_, ?_, ?_⟩
  · exact fun front suffix gap dim hsuffix hgap => trailingName?_of_two_suffixes hsuffix hgap
  · exact fun front => trailingName?_eq_none List.getLast?_concat (by decide) (by decide)
  · exact fun front run hne hrun hfront => trailingName?_of_nameless hne hrun hfront

end StateOverlay.Declaration
