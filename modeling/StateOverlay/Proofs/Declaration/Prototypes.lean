/-
The lines that declare a function.

A prototype has the parameters of its function behind the name, in parentheses, and attributes
behind them.  The removal of attributes runs over all of it, the parameters included, but an
attribute closes no parenthesis that it does not open.  So the parenthesis behind the parameters
stays, and the declarator ends in it:

* `ClosesAtMost`, `IsBalanced` — how many parentheses a text closes, and texts in which they form
  pairs;
* `exists_closesAtMost_of_afterAttribute?` — what is taken for an attribute closes only what it
  opens;
* `exists_removeAttributes_append_close` — the parenthesis behind the parameters is kept;
* `PrototypeLine`, `PrototypeLine.classify_text` — the lines in question, which are prototypes;
* `prototype_not_relocated` — a scan reports such a line, and it declares nothing.
-/
import Mathlib.Data.List.Infix
import StateOverlay.Proofs.Declaration.Grammar

namespace StateOverlay

open Declaration

/-! ### Parentheses in pairs -/

/-- No part that a text begins with closes more than some number of parentheses that it has not
opened. -/
def ClosesAtMost (n : Nat) (s : Text) : Prop :=
  ∀ front, front <+: s → front.count ')' ≤ front.count '(' + n

instance (n : Nat) (s : Text) : Decidable (ClosesAtMost n s) :=
  decidable_of_iff (∀ front ∈ s.inits, front.count ')' ≤ front.count '(' + n) <| by
    simp only [List.mem_inits, ClosesAtMost]

/-- A text in which the parentheses form pairs. -/
structure IsBalanced (s : Text) : Prop where
  even : s.count '(' = s.count ')'
  closesAtMost : ClosesAtMost 0 s

theorem closesAtMost_nil (n : Nat) : ClosesAtMost n [] := by
  intro front hfront
  rw [List.prefix_nil.mp hfront]
  exact Nat.zero_le _

theorem ClosesAtMost.cons_open {n : Nat} {s : Text} (h : ClosesAtMost (n + 1) s) :
    ClosesAtMost n ('(' :: s) := by
  intro front hfront
  rcases List.prefix_cons_iff.mp hfront with rfl | ⟨front, rfl, hrest⟩
  · exact Nat.zero_le _
  · have hclose := h front hrest
    rw [List.count_cons_self, List.count_cons_of_ne (by decide)]
    omega

theorem ClosesAtMost.cons_close {n : Nat} {s : Text} (h : ClosesAtMost n s) :
    ClosesAtMost (n + 1) (')' :: s) := by
  intro front hfront
  rcases List.prefix_cons_iff.mp hfront with rfl | ⟨front, rfl, hrest⟩
  · exact Nat.zero_le _
  · have hclose := h front hrest
    rw [List.count_cons_self, List.count_cons_of_ne (by decide)]
    omega

theorem ClosesAtMost.cons_other {n : Nat} {s : Text} {c : Char} (hopen : c ≠ '(') (hclose : c ≠ ')')
    (h : ClosesAtMost n s) : ClosesAtMost n (c :: s) := by
  intro front hfront
  rcases List.prefix_cons_iff.mp hfront with rfl | ⟨front, rfl, hrest⟩
  · exact Nat.zero_le _
  · rw [List.count_cons_of_ne hopen, List.count_cons_of_ne hclose]
    exact h front hrest

theorem ClosesAtMost.append {n : Nat} {s rest : Text} (hopen : '(' ∉ s) (hclose : ')' ∉ s)
    (h : ClosesAtMost n rest) : ClosesAtMost n (s ++ rest) := by
  induction s with
  | nil => exact h
  | cons c s ih =>
    rw [List.mem_cons, not_or] at hopen hclose
    exact (ih hopen.2 hclose.2).cons_other (Ne.symm hopen.1) (Ne.symm hclose.1)

/-- The end of a text with pairs of parentheses opens no more of them than it closes. -/
theorem IsBalanced.count_le_of_suffix {s rest : Text} (h : IsBalanced s) (hrest : rest <:+ s) :
    rest.count '(' ≤ rest.count ')' := by
  obtain ⟨front, rfl⟩ := hrest
  have hfront := h.closesAtMost front (List.prefix_append front rest)
  have heven := h.even
  rw [List.count_append, List.count_append] at heven
  omega

namespace Declaration

/-! ### Attributes among parentheses -/

/-- What is read as the body of an attribute closes the two parentheses in front of it, and that of
a group if it begins inside one, and no more. -/
theorem exists_of_afterBody? {inGroup : Bool} {s rest : Text}
    (h : afterBody? inGroup s = some rest) :
    ∃ body, s = body ++ rest ∧ ClosesAtMost (if inGroup then 3 else 2) body := by
  induction s generalizing inGroup with
  | nil => cases h
  | cons c s ih =>
    rw [afterBody?] at h
    by_cases hopen : c = '('
    · subst hopen
      cases inGroup with
      | true => cases h
      | false =>
        obtain ⟨body, rfl, hbody⟩ := ih h
        exact ⟨'(' :: body, rfl, hbody.cons_open⟩
    rw [if_neg hopen] at h
    by_cases hclose : c = ')'
    · subst hclose
      cases inGroup with
      | true =>
        obtain ⟨body, rfl, hbody⟩ := ih h
        exact ⟨')' :: body, rfl, hbody.cons_close⟩
      | false =>
        obtain rfl := isPrefixOf?_eq_some_iff.mp h
        exact ⟨[')', ')'], rfl, (closesAtMost_nil 0).cons_close.cons_close⟩
    · rw [if_neg hclose] at h
      obtain ⟨body, rfl, hbody⟩ := ih h
      exact ⟨c :: body, rfl, hbody.cons_other hopen hclose⟩

/-- What is read as an attribute closes no parenthesis that it does not open. -/
theorem exists_closesAtMost_of_afterAttribute? {s rest : Text}
    (h : afterAttribute? s = some rest) : ∃ attr, s = attr ++ rest ∧ ClosesAtMost 0 attr := by
  simp only [afterAttribute?, Option.bind_eq_bind, Option.bind_eq_some_iff] at h
  obtain ⟨t, hword, u, hopen, hbody⟩ := h
  rw [isPrefixOf?_eq_some_iff] at hword hopen
  obtain ⟨gap, hgap, hsplit⟩ := exists_blanks_append_trimStart t
  obtain ⟨body, rfl, hcloses⟩ := exists_of_afterBody? hbody
  have hplain : ∀ c, isBlank c = false → c ∉ gap := fun c hc hmem => by
    cases hc.symm.trans (hgap c hmem)
  refine ⟨attributeWord ++ (gap ++ '(' :: '(' :: body), ?_, ?_⟩
  · rw [hword, hsplit, hopen]
    simp
  · apply ClosesAtMost.append (by decide) (by decide)
    apply ClosesAtMost.append (hplain _ (by decide)) (hplain _ (by decide))
    exact hcloses.cons_open.cons_open

/-- Removing attributes inside a pair of parentheses keeps the one that closes it, and adds nothing
in front of it. -/
theorem exists_removeAttributes_append_close {s : Text}
    (h : ∀ after, after <:+ s → after.count '(' ≤ after.count ')') (rest : Text) :
    ∃ kept, kept ⊆ s ∧
      removeAttributes (s ++ ')' :: rest) = kept ++ ')' :: removeAttributes rest := by
  generalize htext : s ++ ')' :: rest = text
  fun_induction removeAttributes text generalizing s with
  | case1 => simp at htext
  | case2 c tail after hfound ih =>
    obtain ⟨attr, hsplit, hcloses⟩ := exists_closesAtMost_of_afterAttribute? hfound
    rw [← htext] at hsplit
    have hwithin : ∃ inner, s = attr ++ inner ∧ inner ++ ')' :: rest = after := by
      rcases List.append_eq_append_iff.mp hsplit with ⟨more, hattr, hmore⟩ | ⟨inner, hs, hafter⟩
      · cases more with
        | nil => exact ⟨[], by simpa using hattr.symm, hmore⟩
        | cons d more =>
          -- the attribute would close the parenthesis behind the text
          obtain ⟨rfl, _⟩ := List.cons.inj hmore
          have hclose := hcloses (s ++ [')']) ⟨more, by simp [hattr]⟩
          have hopen := h s List.suffix_rfl
          rw [List.count_append, List.count_append, List.count_singleton_self] at hclose
          have hnone : List.count '(' [')'] = 0 := by decide
          omega
      · exact ⟨inner, hs, hafter.symm⟩
    obtain ⟨inner, rfl, hafter⟩ := hwithin
    obtain ⟨kept, hkept, hremoved⟩ :=
      ih (fun end' hend => h end' (hend.trans (List.suffix_append attr inner))) hafter
    exact ⟨kept, fun c hc => List.mem_append_right attr (hkept hc), hremoved⟩
  | case3 c tail hnone ih =>
    cases s with
    | nil =>
      obtain ⟨rfl, rfl⟩ := List.cons.inj htext
      exact ⟨[], List.nil_subset _, rfl⟩
    | cons d s =>
      obtain ⟨rfl, htail⟩ := List.cons.inj htext
      obtain ⟨kept, hkept, hremoved⟩ :=
        ih (fun end' hend => h end' (hend.trans (List.suffix_cons d s))) htail
      exact ⟨d :: kept, List.cons_subset_cons d hkept, by rw [hremoved]; rfl⟩

/-- What stands in front of the first parenthesis is kept, if it does not end in the word of an
attribute and white space. -/
theorem removeAttributes_append_open {front : Text} (hopen : '(' ∉ front)
    (hword : ∀ gap, (∀ c ∈ gap, isBlank c) → ¬ attributeWord ++ gap <:+ front) (rest : Text) :
    removeAttributes (front ++ '(' :: rest) = front ++ '(' :: removeAttributes rest := by
  rw [← removeAttributes_cons_of_not_isWord (c := '(') (by decide)]
  apply removeAttributes_append
  intro after hafter _
  by_contra hfound
  obtain ⟨left, hfound⟩ := Option.ne_none_iff_exists'.mp hfound
  obtain ⟨gap, inner, hgap, hsplit⟩ := exists_of_afterAttribute? hfound
  -- both sides are cut at the first parenthesis
  have hplain : '(' ∉ attributeWord ++ gap :=
    List.not_mem_append (by decide) fun hmem => absurd (hgap _ hmem) (by decide)
  have hhere := (takeWhile_ne_append (fun hmem => hopen (hafter.subset hmem)) rest).1
  rw [hsplit, ← List.append_assoc, (takeWhile_ne_append hplain inner).1] at hhere
  exact hword gap hgap (hhere ▸ hafter)

/-- Dropping the qualifier does not reach the first parenthesis of a declaration. -/
theorem exists_unqualified_open {qualifier : Text} (hqualifier : IsIdentifier qualifier)
    (front rest : Text) :
    ∃ shorter, shorter <:+ front ∧
      (afterQualifier? qualifier (front ++ '(' :: rest)).getD (front ++ '(' :: rest)
        = shorter ++ '(' :: rest := by
  cases hafter : afterQualifier? qualifier (front ++ '(' :: rest) with
  | none => exact ⟨front, List.suffix_rfl, rfl⟩
  | some left =>
    obtain ⟨gap, _, hgap, hsplit, _⟩ := exists_of_afterQualifier? hafter
    have hplain : '(' ∉ qualifier ++ gap :=
      List.not_mem_append (hqualifier.not_mem (by decide) (by decide))
        fun hmem => absurd (hgap _ hmem) (by decide)
    rw [← List.append_assoc] at hsplit
    rcases List.append_eq_append_iff.mp hsplit with ⟨more, hmore, hrest⟩ | ⟨more, hmore, hleft⟩
    · cases more with
      | nil => exact ⟨[], List.nil_suffix, hrest.symm⟩
      | cons c more =>
        obtain ⟨rfl, _⟩ := List.cons.inj hrest
        exact absurd (hmore ▸ List.mem_append_right front List.mem_cons_self) hplain
    · exact ⟨more, ⟨qualifier ++ gap, hmore.symm⟩, hleft⟩

/-- No name stands at the end of a text that ends in neither a word nor a bracket. -/
theorem trailingName?_eq_none {s : Text} {c : Char} (hlast : s.getLast? = some c)
    (hword : isWord c = false) (hbracket : c ≠ ']') : trailingName? s = none := by
  rw [trailingName?, Option.map_eq_none_iff, search_eq_none_iff]
  rintro before rest rfl
  rw [Option.eq_none_iff_forall_ne_some]
  intro name hread
  rcases (trailingNameAt?_eq_some_iff.mp hread).last hlast with hend | hend
  · cases hword.symm.trans hend
  · exact hbracket hend

end Declaration

/-! ### The lines -/

/-- The parts of a line that declares a function. -/
structure PrototypeLine where
  margin : Text
  /-- The white space behind the qualifier, if the line has the qualifier. -/
  qualified : Option Text
  type : Text
  name : Text
  /-- The white space between the name and the parameters. -/
  gap : Text
  parameters : Text
  /-- The attributes, each with the white space in front of it. -/
  attributes : List (Text × Text)
  /-- The white space in front of the semicolon. -/
  space : Text
  /-- The white space behind the semicolon. -/
  ending : Text
  /-- What stands behind the opening of a comment, if there is one. -/
  comment : Option Text
  margin_blank : ∀ c ∈ margin, isBlank c
  qualified_blank : ∀ blanks ∈ qualified, blanks ≠ [] ∧ ∀ c ∈ blanks, isBlank c
  isTypeText_type : IsTypeText type
  isIdentifier_name : IsIdentifier name
  name_wordless : ¬ attributeWord <:+ name
  gap_blank : ∀ c ∈ gap, isBlank c
  isBalanced_parameters : IsBalanced parameters
  parameters_plain : '=' ∉ parameters
  attributes_spaced : ∀ found ∈ attributes, (∀ c ∈ found.1, isBlank c) ∧ IsAttribute found.2
  space_blank : ∀ c ∈ space, isBlank c
  ending_blank : ∀ c ∈ ending, isBlank c

namespace PrototypeLine

/-- What stands in front of the name. -/
def front (qualifier : Text) (line : PrototypeLine) : Text :=
  qualifierText qualifier line.qualified ++ line.type

/-- What stands behind the parameters, up to the semicolon. -/
def tail (line : PrototypeLine) : Text :=
  line.attributes.flatMap (fun (blanks, attr) => blanks ++ attr) ++ line.space

/-- What is left of that without the attributes. -/
def remnant (line : PrototypeLine) : Text := line.attributes.flatMap Prod.fst ++ line.space

/-- A line up to its semicolon. -/
def declaration (qualifier : Text) (line : PrototypeLine) : Text :=
  line.front qualifier ++ line.name ++ line.gap ++ '(' :: (line.parameters ++ ')' :: line.tail)

/-- A line up to the comment at its end. -/
def code (qualifier : Text) (line : PrototypeLine) : Text :=
  line.margin ++ line.declaration qualifier ++ [';'] ++ line.ending

/-- A line as it stands in a header. -/
def text (qualifier : Text) (line : PrototypeLine) : Text :=
  line.code qualifier ++ commentText line.comment

variable (line : PrototypeLine)

theorem removeAttributes_tail : removeAttributes line.tail = line.remnant := by
  have hspace := removeAttributes_blanks_append line.space_blank []
  rw [removeAttributes, List.append_nil] at hspace
  rw [tail, removeAttributes_attributes line.attributes_spaced, hspace, remnant]

theorem isBlank_of_mem_remnant {c : Char} (hc : c ∈ line.remnant) : isBlank c = true := by
  rcases List.mem_append.mp hc with hc | hc
  · obtain ⟨found, hfound, hc⟩ := List.mem_flatMap.mp hc
    exact (line.attributes_spaced found hfound).1 c hc
  · exact line.space_blank c hc

section Qualified

variable {qualifier : Text} (hqualifier : IsIdentifier qualifier)

/-- What stands in front of the name ends no word. -/
theorem isWord_getLast?_front {c : Char} (hc : (line.front qualifier).getLast? = some c) :
    isWord c = false := by
  rw [front, List.getLast?_append] at hc
  cases htype : line.type.getLast? with
  | some d =>
    rw [htype] at hc
    cases hc
    exact line.isTypeText_type.isWord_last htype
  | none =>
    rw [htype] at hc
    cases hqualified : line.qualified with
    | none =>
      rw [hqualified] at hc
      cases hc
    | some blanks =>
      obtain ⟨hne, hblank⟩ := line.qualified_blank blanks hqualified
      rw [hqualified, qualifierText, List.getLast?_append_of_ne_nil _ hne] at hc
      exact isWord_of_isBlank (hblank c (List.mem_of_getLast? hc))

/-- The line up to its parameters does not end in the word of an attribute. -/
theorem attributeWord_not_suffix {gap : Text} (hgap : ∀ c ∈ gap, isBlank c) :
    ¬ attributeWord ++ gap <:+ line.front qualifier ++ line.name ++ line.gap := by
  rintro ⟨before, hsplit⟩
  have hend : ∀ {word : Text}, (∀ c ∈ word, isBlank c = false) → word ≠ [] → ∀ (s : Text) {blanks},
      (∀ c ∈ blanks, isBlank c) → Text.trimEnd (s ++ word ++ blanks) = s ++ word := by
    intro word hword hne s blanks hblanks
    rw [trimEnd_append_blanks hblanks, trimEnd_eq_self]
    intro c hc
    rw [List.getLast?_append_of_ne_nil _ hne] at hc
    exact hword c (List.mem_of_getLast? hc)
  obtain ⟨first, word, hname, _⟩ := line.isIdentifier_name.exists_cons
  have hnameNe : line.name ≠ [] := hname ▸ List.cons_ne_nil first word
  have hwordBlank : ∀ c ∈ attributeWord, isBlank c = false :=
    fun c hc => isBlank_of_isWord (isWord_of_mem_attributeWord hc)
  have htrimmed := congrArg Text.trimEnd hsplit
  rw [← List.append_assoc, hend hwordBlank (by decide) before hgap,
    hend line.isIdentifier_name.isBlank_of_mem hnameNe _ line.gap_blank] at htrimmed
  rcases List.append_eq_append_iff.mp htrimmed with ⟨more, hfront, hword⟩ | ⟨more, _, hname⟩
  · -- the word would begin in front of the name, with a character that ends no word
    cases hlast : more.getLast? with
    | none =>
      obtain rfl := List.getLast?_eq_none_iff.mp hlast
      exact line.name_wordless (hword ▸ List.suffix_rfl)
    | some c =>
      have hc : (line.front qualifier).getLast? = some c := by
        rw [hfront, List.getLast?_append, hlast]
        rfl
      have hmem : c ∈ attributeWord := hword ▸ List.mem_append_left _ (List.mem_of_getLast? hlast)
      cases (isWord_of_mem_attributeWord hmem).symm.trans (line.isWord_getLast?_front hc)
  · exact line.name_wordless ⟨more, hname.symm⟩

include hqualifier in
/-- In front of the parameters stand only words, white space and stars. -/
theorem not_mem_front {c : Char} (hword : isWord c = false) (hblank : isBlank c = false)
    (hstar : c ≠ '*') : c ∉ line.front qualifier ++ line.name ++ line.gap := by
  have hloud : ∀ {blanks : Text}, (∀ d ∈ blanks, isBlank d) → c ∉ blanks := by
    intro blanks hblanks hmem
    cases hblank.symm.trans (hblanks c hmem)
  have hidentifier : ∀ {name : Text}, IsIdentifier name → c ∉ name := by
    intro name hname hmem
    cases hword.symm.trans (hname.isWord_of_mem c hmem)
  have hqualified : c ∉ qualifierText qualifier line.qualified := by
    cases hqualified : line.qualified with
    | none => exact List.not_mem_nil
    | some blanks =>
      exact List.not_mem_append (hidentifier hqualifier)
        (hloud (line.qualified_blank blanks hqualified).2)
  have htype : c ∉ line.type := line.isTypeText_type.not_mem hword hblank hstar
  exact List.not_mem_append (List.not_mem_append (List.not_mem_append hqualified htype)
    (hidentifier line.isIdentifier_name)) (hloud line.gap_blank)

include hqualifier in
/-- The declarator of a prototype ends in the parenthesis behind its parameters. -/
theorem getLast?_declarator :
    (declarator qualifier (Text.trimStart (line.declaration qualifier))).getLast? = some ')' := by
  -- the front without the white space and the qualifier that it begins with
  have hstart : Text.trimStart (line.declaration qualifier)
      = Text.trimStart (line.front qualifier ++ line.name ++ line.gap)
        ++ '(' :: (line.parameters ++ ')' :: line.tail) := by
    apply trimStart_append
    rintro c ⟨rfl⟩
    decide
  obtain ⟨shorter, hshorter, hunqualified⟩ := exists_unqualified_open hqualifier
    (Text.trimStart (line.front qualifier ++ line.name ++ line.gap))
    (line.parameters ++ ')' :: line.tail)
  have hsuffix : shorter <:+ line.front qualifier ++ line.name ++ line.gap :=
    hshorter.trans (List.dropWhile_suffix _)
  -- the attributes are gone, from the parameters and from behind them
  obtain ⟨kept, hkept, hremoved⟩ := exists_removeAttributes_append_close
    (fun _ => line.isBalanced_parameters.count_le_of_suffix) line.tail
  have hreduced : removeAttributes (shorter ++ '(' :: (line.parameters ++ ')' :: line.tail))
      = shorter ++ '(' :: kept ++ [')'] ++ line.remnant := by
    rw [removeAttributes_append_open, hremoved, line.removeAttributes_tail]
    · simp only [List.append_assoc, List.cons_append, List.nil_append]
    · exact fun hmem => line.not_mem_front hqualifier (by decide) (by decide) (by decide)
        (hsuffix.subset hmem)
    · exact fun gap hgap hword => line.attributeWord_not_suffix hgap (hword.trans hsuffix)
  have hequals : '=' ∉ shorter ++ '(' :: kept ++ [')'] ++ line.remnant := by
    have hfront : '=' ∉ shorter := fun hmem =>
      line.not_mem_front hqualifier (by decide) (by decide) (by decide) (hsuffix.subset hmem)
    have hparameters : '=' ∉ '(' :: kept :=
      List.not_mem_cons_of_ne_of_not_mem (by decide) fun hmem => line.parameters_plain (hkept hmem)
    have hremnant : '=' ∉ line.remnant := fun hmem =>
      absurd (line.isBlank_of_mem_remnant hmem) (by decide)
    exact List.not_mem_append (List.not_mem_append (List.not_mem_append hfront hparameters)
      (by decide)) hremnant
  have huncut : (shorter ++ '(' :: kept ++ [')'] ++ line.remnant).takeWhile (· != '=')
      = shorter ++ '(' :: kept ++ [')'] ++ line.remnant :=
    List.takeWhile_eq_self_iff.mpr fun c hc => bne_iff_ne.mpr fun heq => hequals (heq ▸ hc)
  have hstop : ∀ c, [')'].head? = some c → isBlank c = false := by
    rintro c ⟨rfl⟩
    decide
  rw [declarator, hstart, hunqualified, hreduced, huncut, trim_append_append (List.cons_ne_nil _ _)
    hstop hstop fun c => line.isBlank_of_mem_remnant, List.getLast?_concat]

include hqualifier in
/-- A prototype is classified as one. -/
theorem classify_text {config : Config} (hstorage : config.storageQualifier = qualifier)
    (hopener : ¬ ['/', '*'] <:+: line.code qualifier) :
    classify config (line.text qualifier) = .skipped .prototype := by
  subst hstorage
  have hlast := line.getLast?_declarator hqualifier
  rw [classify, text, stripComment_append_commentText hopener, code,
    trim_terminated line.margin_blank line.ending_blank]
  dsimp only
  rw [List.getLast?_concat, if_pos rfl, List.dropLast_concat,
    trailingName?_eq_none hlast (by decide) (by decide), if_pos hlast]

include hqualifier in
theorem isCodeLine : IsCodeLine (line.text qualifier) := by
  have hcode := isCodeLine_of_type_name hqualifier line.margin_blank
    (fun blanks hblanks => (line.qualified_blank blanks hblanks).2) line.isTypeText_type
    line.isIdentifier_name (line.gap ++ '(' :: (line.parameters ++ ')' :: line.tail) ++
      ([';'] ++ (line.ending ++ commentText line.comment)))
  simpa only [text, code, declaration, front, List.append_assoc, List.cons_append] using hcode

end Qualified

end PrototypeLine

/-! ### The scan -/

/-- A line that declares a function is reported as a prototype, once, and adds nothing to what the
other lines of the header declare. -/
theorem prototype_not_relocated {config : Config} {source : Text} {i : Nat} (line : PrototypeLine)
    (hqualifier : IsIdentifier config.storageQualifier)
    (hopener : ¬ ['/', '*'] <:+: line.code config.storageQualifier)
    (hline : (Text.lines source)[i]? = some (line.text config.storageQualifier)) :
    (∀ entry, entry ∈ (Scan.ofSource config source).skipped ∧ entry.lineNumber = i + 1 ↔
      entry = { lineNumber := i + 1, text := Text.trim (line.text config.storageQualifier),
                reason := .prototype }) ∧
    (Scan.ofSource config (withoutLine source i)).identifiers
      = (Scan.ofSource config source).identifiers ∧
    (Scan.ofSource config (withoutLine source i)).records
      = (Scan.ofSource config source).records := by
  have hclass := line.classify_text hqualifier rfl hopener
  exact ⟨fun _ => mem_skipped_and_number_iff hline hclass (line.isCodeLine hqualifier),
    identifiers_withoutLine hline hclass, records_withoutLine hline hclass⟩

/-- A function that takes a function, with attributes among its parameters and behind them. -/
def sortLine : PrototypeLine where
  margin := [' ']
  qualified := some ['\t']
  type := "void *".toList
  name := "sort".toList
  gap := [' ']
  parameters := "int (*less)(const int *, int) __attribute__((nonnull(1))), int n".toList
  attributes := [([' '], "__attribute__((cold))".toList)]
  space := [' ']
  ending := [' ']
  comment := some " int last; */".toList
  margin_blank := isBlank_of_mem_space
  qualified_blank := by decide +kernel
  isTypeText_type := by decide +kernel
  isIdentifier_name := by decide +kernel
  name_wordless := by decide +kernel
  gap_blank := isBlank_of_mem_space
  isBalanced_parameters := ⟨by decide +kernel, by decide +kernel⟩
  parameters_plain := by decide +kernel
  attributes_spaced := List.forall_mem_singleton.mpr
    ⟨isBlank_of_mem_space, [], "cold".toList, List.forall_mem_nil _, by decide +kernel,
      by decide +kernel⟩
  space_blank := isBlank_of_mem_space
  ending_blank := isBlank_of_mem_space

/-- That line in a header, behind a declaration. -/
theorem sort_not_relocated :
    let source := Text.unlines ["static int last;".toList, sortLine.text "static".toList]
    (∀ entry, entry ∈ (Scan.ofSource {} source).skipped ∧ entry.lineNumber = 2 ↔
      entry = { lineNumber := 2, text := Text.trim (sortLine.text "static".toList),
                reason := .prototype }) ∧
    (Scan.ofSource {} (withoutLine source 1)).identifiers
      = (Scan.ofSource {} source).identifiers ∧
    (Scan.ofSource {} (withoutLine source 1)).records = (Scan.ofSource {} source).records :=
  prototype_not_relocated sortLine (by decide +kernel) (by decide +kernel) (by decide +kernel)

end StateOverlay
