/-
Attributes and their removal.

An attribute is a word, white space if any, and a body in two pairs of parentheses.  Inside a body
parentheses stand in pairs, one in another nowhere.  So an attribute ends at the first pair of
closing parentheses that its own groups leave over, whatever else its body holds, and removing the
attributes of a text takes out exactly these parts:

* `IsBody`, `IsAttribute` — the grammar of attributes;
* `IsAttribute.removeAttributes_append` — an attribute that a text begins with is removed;
* `removeAttributes_wordless_append` — a part without the word of an attribute is kept, in front of
  an attribute too;
* `removeAttributes_append_of_unopened` — so is a part without an opening parenthesis, if what
  follows separates it from any.
-/
import StateOverlay.Proofs.Text.Identifier
import StateOverlay.Declaration

namespace StateOverlay.Declaration

/-! ### The grammar -/

/-- The body of an attribute: the parentheses in it form pairs, and no pair holds another. -/
inductive IsBody : Text → Prop
  | nil : IsBody []
  | char {c : Char} {rest : Text} (hopen : c ≠ '(') (hclose : c ≠ ')') (hrest : IsBody rest) :
    IsBody (c :: rest)
  | group {inner rest : Text} (hopen : '(' ∉ inner) (hclose : ')' ∉ inner) (hrest : IsBody rest) :
    IsBody ('(' :: inner ++ ')' :: rest)

/-- An attribute: its word, white space if any, and its body in two pairs of parentheses. -/
def IsAttribute (s : Text) : Prop :=
  ∃ gap body, (∀ c ∈ gap, isBlank c) ∧ IsBody body ∧
    s = attributeWord ++ gap ++ '(' :: '(' :: body ++ [')', ')']

theorem afterBody?_group {inner rest : Text} (hopen : '(' ∉ inner) (hclose : ')' ∉ inner) :
    afterBody? true (inner ++ ')' :: rest) = afterBody? false rest := by
  induction inner with
  | nil => simp [afterBody?]
  | cons c inner ih =>
    rw [List.mem_cons, not_or] at hopen hclose
    rw [List.cons_append, afterBody?, if_neg (Ne.symm hopen.1), if_neg (Ne.symm hclose.1),
      ih hopen.2 hclose.2]

/-- A body goes on to the two parentheses that close it. -/
theorem IsBody.afterBody?_append {body : Text} (h : IsBody body) (rest : Text) :
    afterBody? false (body ++ ')' :: ')' :: rest) = some rest := by
  induction h with
  | nil =>
    have hclosed : [')'].isPrefixOf? (')' :: rest) = some rest := isPrefixOf?_eq_some_iff.mpr rfl
    simp [afterBody?, hclosed]
  | char hopen hclose _ ih => rw [List.cons_append, afterBody?, if_neg hopen, if_neg hclose, ih]
  | @group inner body hopen hclose _ ih =>
    rw [List.cons_append, List.cons_append, List.append_assoc, List.cons_append, afterBody?,
      if_pos rfl, if_neg Bool.false_ne_true, afterBody?_group hopen hclose, ih]

/-- A text that goes on to two closing parentheses at its end is a body, or it ends a group and goes
on with a body. -/
theorem isBody_of_afterBody? {inGroup : Bool} {body : Text}
    (h : afterBody? inGroup (body ++ [')', ')']) = some []) :
    if inGroup then
      ∃ inner rest, '(' ∉ inner ∧ ')' ∉ inner ∧ body = inner ++ ')' :: rest ∧ IsBody rest
    else IsBody body := by
  induction body generalizing inGroup with
  | nil =>
    cases inGroup with
    | false => exact .nil
    | true => cases h
  | cons c body ih =>
    rw [List.cons_append, afterBody?] at h
    by_cases hopen : c = '('
    · subst hopen
      cases inGroup with
      | true => cases h
      | false =>
        obtain ⟨inner, rest, hnoOpen, hnoClose, rfl, hrest⟩ := ih h
        exact .group hnoOpen hnoClose hrest
    rw [if_neg hopen] at h
    by_cases hclose : c = ')'
    · subst hclose
      cases inGroup with
      | true => exact ⟨[], body, List.not_mem_nil, List.not_mem_nil, rfl, ih h⟩
      | false =>
        -- the parenthesis closes the body, with which the text would end too soon
        have hlength := congrArg List.length (isPrefixOf?_eq_some_iff.mp h)
        simp at hlength
    rw [if_neg hclose] at h
    cases inGroup with
    | false => exact .char hopen hclose (ih h)
    | true =>
      obtain ⟨inner, rest, hnoOpen, hnoClose, rfl, hrest⟩ := ih h
      refine ⟨c :: inner, rest, ?_, ?_, rfl, hrest⟩
      · exact List.not_mem_cons_of_ne_of_not_mem (Ne.symm hopen) hnoOpen
      · exact List.not_mem_cons_of_ne_of_not_mem (Ne.symm hclose) hnoClose

instance : DecidablePred IsBody := fun body =>
  decidable_of_iff (afterBody? false (body ++ [')', ')']) = some [])
    ⟨isBody_of_afterBody?, fun h => h.afterBody?_append []⟩

theorem IsAttribute.afterAttribute?_append {s : Text} (h : IsAttribute s) (rest : Text) :
    afterAttribute? (s ++ rest) = some rest := by
  obtain ⟨gap, body, hgap, hbody, rfl⟩ := h
  have hword : attributeWord ++ gap ++ '(' :: '(' :: body ++ [')', ')'] ++ rest
      = attributeWord ++ (gap ++ '(' :: '(' :: (body ++ ')' :: ')' :: rest)) := by simp
  have hopen : Text.trimStart (gap ++ '(' :: '(' :: (body ++ ')' :: ')' :: rest))
      = ['(', '('] ++ (body ++ ')' :: ')' :: rest) :=
    trimStart_blanks_cons hgap (by decide) _
  simp only [afterAttribute?, Option.bind_eq_bind, hword, isPrefixOf?_eq_some_iff.mpr rfl,
    Option.bind_some, hopen]
  exact hbody.afterBody?_append rest

/-- A text that begins with an attribute begins with its word, white space and a parenthesis. -/
theorem exists_of_afterAttribute? {s rest : Text} (h : afterAttribute? s = some rest) :
    ∃ gap after, (∀ c ∈ gap, isBlank c) ∧ s = attributeWord ++ (gap ++ '(' :: after) := by
  simp only [afterAttribute?, Option.bind_eq_bind, Option.bind_eq_some_iff] at h
  obtain ⟨t, hword, u, hopen, _⟩ := h
  rw [isPrefixOf?_eq_some_iff] at hword hopen
  obtain ⟨gap, hgap, hsplit⟩ := exists_blanks_append_trimStart t
  rw [hopen] at hsplit
  exact ⟨gap, '(' :: u, hgap, hword.trans (congrArg (attributeWord ++ ·) hsplit)⟩

/-! ### Removal -/

theorem IsAttribute.removeAttributes_append {s : Text} (h : IsAttribute s) (rest : Text) :
    removeAttributes (s ++ rest) = removeAttributes rest := by
  have hafter := h.afterAttribute?_append rest
  cases hs : s ++ rest with
  | nil =>
    rw [hs] at hafter
    cases hafter
  | cons c tail =>
    rw [hs] at hafter
    rw [removeAttributes]
    split
    · case h_1 after hfound =>
      cases hafter.symm.trans hfound
      rfl
    · case h_2 hnone => cases hafter.symm.trans hnone

theorem removeAttributes_cons {c : Char} {rest : Text} (h : afterAttribute? (c :: rest) = none) :
    removeAttributes (c :: rest) = c :: removeAttributes rest := by
  rw [removeAttributes]
  split
  · case h_1 after hfound => cases h.symm.trans hfound
  · rfl

/-- A part of a text in which no attribute begins is kept. -/
theorem removeAttributes_append {s rest : Text}
    (h : ∀ after, after <:+ s → after ≠ [] → afterAttribute? (after ++ rest) = none) :
    removeAttributes (s ++ rest) = s ++ removeAttributes rest := by
  induction s with
  | nil => rfl
  | cons c s ih =>
    have hhere : afterAttribute? (c :: (s ++ rest)) = none :=
      h (c :: s) List.suffix_rfl (List.cons_ne_nil _ _)
    rw [List.cons_append, removeAttributes_cons hhere,
      ih fun after hafter => h after (hafter.trans (List.suffix_cons c s)), List.cons_append]

theorem isWord_of_mem_attributeWord {c : Char} (h : c ∈ attributeWord) : isWord c = true := by
  have hall : ∀ c ∈ attributeWord, isWord c = true := by decide
  exact hall c h

/-- A character that is no word character begins no attribute. -/
theorem removeAttributes_cons_of_not_isWord {c : Char} (hc : isWord c = false) (rest : Text) :
    removeAttributes (c :: rest) = c :: removeAttributes rest := by
  apply removeAttributes_cons
  by_contra hfound
  obtain ⟨left, hfound⟩ := Option.ne_none_iff_exists'.mp hfound
  obtain ⟨gap, after, _, hsplit⟩ := exists_of_afterAttribute? hfound
  have hmem : c ∈ attributeWord := by
    obtain ⟨rfl, _⟩ := List.cons.inj hsplit
    decide
  cases (isWord_of_mem_attributeWord hmem).symm.trans hc

theorem removeAttributes_blanks_append {gap : Text} (hgap : ∀ c ∈ gap, isBlank c) (rest : Text) :
    removeAttributes (gap ++ rest) = gap ++ removeAttributes rest := by
  induction gap with
  | nil => rfl
  | cons c gap ih =>
    rw [List.forall_mem_cons] at hgap
    rw [List.cons_append, removeAttributes_cons_of_not_isWord (isWord_of_isBlank hgap.1),
      ih hgap.2, List.cons_append]

/-- Removing some attributes, each behind white space if any, leaves that white space. -/
theorem removeAttributes_attributes {attributes : List (Text × Text)}
    (h : ∀ found ∈ attributes, (∀ c ∈ found.1, isBlank c) ∧ IsAttribute found.2) (rest : Text) :
    removeAttributes (attributes.flatMap (fun (blanks, attr) => blanks ++ attr) ++ rest)
      = attributes.flatMap Prod.fst ++ removeAttributes rest := by
  induction attributes with
  | nil => rfl
  | cons first more ih =>
    rw [List.forall_mem_cons] at h
    obtain ⟨⟨hblanks, hattr⟩, hmore⟩ := h
    rw [List.flatMap_cons, List.flatMap_cons, List.append_assoc, List.append_assoc,
      removeAttributes_blanks_append hblanks, hattr.removeAttributes_append, ih hmore,
      List.append_assoc]

/-- The word of an attribute is all of the run of word characters that it begins. -/
theorem takeWhile_isWord_of_afterAttribute? {s rest : Text} (h : afterAttribute? s = some rest) :
    s.takeWhile isWord = attributeWord := by
  obtain ⟨gap, after, hgap, rfl⟩ := exists_of_afterAttribute? h
  have hbehind : ∀ c, (gap ++ '(' :: after).head? = some c → isWord c = false := by
    refine isWord_head?_blanks_append hgap ?_
    rintro c ⟨rfl⟩
    decide
  rw [List.takeWhile_append_of_pos fun c => isWord_of_mem_attributeWord,
    (takeWhile_dropWhile_isWord hbehind).1, List.append_nil]

/-- A part of a text that does not hold the word of an attribute is kept, if what follows goes on
with no word or with just the word of an attribute. -/
theorem removeAttributes_wordless_append {s rest : Text} (hs : ¬ attributeWord <:+: s)
    (hrest : rest.takeWhile isWord = [] ∨ rest.takeWhile isWord = attributeWord) :
    removeAttributes (s ++ rest) = s ++ removeAttributes rest := by
  apply removeAttributes_append
  intro after hafter hne
  by_contra hfound
  obtain ⟨left, hfound⟩ := Option.ne_none_iff_exists'.mp hfound
  have hpart : ¬ attributeWord <+: after := fun h => hs (h.isInfix.trans hafter.isInfix)
  have hrun := takeWhile_isWord_of_afterAttribute? hfound
  rw [List.takeWhile_append] at hrun
  split at hrun
  · -- the run goes on into what follows, and there it has no room for a whole word
    rcases hrest with hrest | hrest
    · rw [hrest, List.append_nil] at hrun
      exact hpart (hrun ▸ List.prefix_rfl)
    · rw [hrest] at hrun
      exact hne (List.append_left_eq_self.mp hrun)
  · exact hpart (hrun ▸ List.takeWhile_prefix isWord)

/-- A part of a text that does not hold the word of an attribute is kept, if what follows cannot
complete the word. -/
theorem removeAttributes_append_of_wordless {s : Text} {c : Char} (hs : ¬ attributeWord <:+: s)
    (hc : isWord c = false) (rest : Text) :
    removeAttributes (s ++ c :: rest) = s ++ c :: removeAttributes rest := by
  rw [← removeAttributes_cons_of_not_isWord hc]
  exact removeAttributes_wordless_append hs (.inl (List.takeWhile_cons_of_neg (by simp [hc])))

/-- An attribute opens a parenthesis behind a run of word characters and white space if any. -/
theorem head?_of_afterAttribute? {s rest : Text} (h : afterAttribute? s = some rest) :
    (Text.trimStart (s.dropWhile isWord)).head? = some '(' := by
  obtain ⟨gap, after, hgap, hs⟩ := exists_of_afterAttribute? h
  have hbehind : s.dropWhile isWord = gap ++ '(' :: after := by
    apply List.append_cancel_left
    rw [← hs, ← takeWhile_isWord_of_afterAttribute? h, List.takeWhile_append_dropWhile]
  rw [hbehind, trimStart_blanks_cons hgap (by decide)]
  rfl

/-- A text that goes on with no word and opens no parenthesis, white space aside. -/
structure Separates (s : Text) : Prop where
  head : ∀ c, s.head? = some c → isWord c = false
  start : (Text.trimStart s).head? ≠ some '('

theorem Separates.nil : Separates [] := ⟨fun _ hc => (nomatch hc), fun h => (nomatch h)⟩

theorem Separates.cons {c : Char} (hword : isWord c = false) (hblank : isBlank c = false)
    (hopen : c ≠ '(') (rest : Text) : Separates (c :: rest) := by
  refine ⟨fun d hd => ?_, ?_⟩
  · cases hd
    exact hword
  · rw [Text.trimStart, List.dropWhile_cons_of_neg (by simp [hblank])]
    simpa using hopen

theorem Separates.blanks_append {gap rest : Text} (hgap : ∀ c ∈ gap, isBlank c)
    (hrest : Separates rest) : Separates (gap ++ rest) := by
  refine ⟨isWord_head?_blanks_append hgap hrest.head, ?_⟩
  rw [Text.trimStart, List.dropWhile_append_of_pos hgap]
  exact hrest.start

/-- An attribute behind white space opens no parenthesis: its word comes first. -/
theorem Separates.attribute {gap attr : Text} (hne : gap ≠ []) (hgap : ∀ c ∈ gap, isBlank c)
    (hattr : IsAttribute attr) (rest : Text) : Separates (gap ++ (attr ++ rest)) := by
  obtain ⟨inner, body, _, _, rfl⟩ := hattr
  refine ⟨isWord_head?_blanks hne hgap _, ?_⟩
  rw [Text.trimStart, List.dropWhile_append_of_pos hgap]
  intro h
  cases h

/-- A part of a text without opening parentheses is kept, if what follows separates it from any. -/
theorem removeAttributes_append_of_unopened {s rest : Text} (hs : '(' ∉ s)
    (hrest : Separates rest) : removeAttributes (s ++ rest) = s ++ removeAttributes rest := by
  apply removeAttributes_append
  intro after hafter _
  by_contra hfound
  obtain ⟨left, hfound⟩ := Option.ne_none_iff_exists'.mp hfound
  have hopen := head?_of_afterAttribute? hfound
  rw [List.dropWhile_append] at hopen
  split at hopen
  · -- the part ends in a word, which what follows does not go on with
    refine hrest.start ?_
    cases rest with
    | nil => exact hopen
    | cons c rest => rwa [List.dropWhile_cons_of_neg (by simp [hrest.head c rfl])] at hopen
  · rcases head?_trimStart_append hopen with hmem | hopen
    · exact hs (hafter.subset ((List.dropWhile_suffix _).subset hmem))
    · exact hrest.start hopen

end StateOverlay.Declaration
