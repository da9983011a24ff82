/-
Record initializers.

A record initializer is the qualifier and the tag, white space behind each of them, a name, an
equals sign and braces, with white space in between.  The reader of record initializers finds what
this grammar says, and no more:

* `BeginsBraces`, `BeginsRecord` — a name and the braces behind it, and all of an initializer;
* `beginsRecord_of_recordAt?` — what the reader answers on is a record initializer;
* `BeginsRecord.recordAt?` — every one is answered, if the tag does not begin with white space;
* `exists_of_record?` — the search answers with a record initializer somewhere in the text.
-/
import StateOverlay.Proofs.Declaration.Attributes

namespace StateOverlay.Declaration

/-! ### Braces -/

/-- A text that begins with a name, an equals sign and braces around some contents. -/
structure BeginsBraces (name contents s : Text) : Prop where
  isIdentifier : IsIdentifier name
  unclosed : '}' ∉ contents
  split : ∃ before behind rest, (∀ c ∈ before, isBlank c) ∧ (∀ c ∈ behind, isBlank c) ∧
    s = name ++ (before ++ '=' :: (behind ++ '{' :: (contents ++ '}' :: rest)))

/-- What is read as a name and its braces begins the text. -/
theorem beginsBraces_of_bracedValues? {s name contents : Text}
    (h : bracedValues? s = some (name, contents)) : BeginsBraces name contents s := by
  simp only [bracedValues?, Option.bind_eq_bind, Option.bind_eq_some_iff] at h
  obtain ⟨⟨found, tail⟩, hname, inner, hequals, body, hopen, hclose⟩ := h
  obtain ⟨hidentifier, rfl⟩ := isIdentifier_of_name? hname
  obtain ⟨before, hbefore, htail⟩ := exists_blanks_append_trimStart tail
  obtain ⟨behind, hbehind, hinner⟩ := exists_blanks_append_trimStart inner
  rw [isPrefixOf?_eq_some_iff] at hequals hopen
  have hbody : body.takeWhile (· != '}') ++ body.dropWhile (· != '}') = body :=
    List.takeWhile_append_dropWhile
  have hstop := List.head?_dropWhile_not (· != '}') body
  cases hleft : body.dropWhile (· != '}') with
  | nil =>
    rw [hleft] at hclose
    cases hclose
  | cons c rest =>
    rw [hleft] at hclose hbody hstop
    cases hclose
    obtain rfl : c = '}' := by simpa using hstop
    refine ⟨hidentifier, ?_, before, behind, rest, hbefore, hbehind, ?_⟩
    · intro hmem
      simpa using List.mem_takeWhile_imp hmem
    · rw [hbody, htail, hequals, hinner, hopen]
      rfl

theorem BeginsBraces.bracedValues? {name contents s : Text} (h : BeginsBraces name contents s) :
    bracedValues? s = some (name, contents) := by
  obtain ⟨hname, hunclosed, before, behind, rest, hbefore, hbehind, rfl⟩ := h
  have htail : Separates (before ++ '=' :: (behind ++ '{' :: (contents ++ '}' :: rest))) :=
    .blanks_append hbefore (.cons (by decide) (by decide) (by decide) _)
  have hread := name?_append hname htail.head
  have hequals : Text.trimStart (before ++ '=' :: (behind ++ '{' :: (contents ++ '}' :: rest)))
      = ['='] ++ (behind ++ '{' :: (contents ++ '}' :: rest)) :=
    trimStart_blanks_cons hbefore (by decide) _
  have hopen : Text.trimStart (behind ++ '{' :: (contents ++ '}' :: rest))
      = ['{'] ++ (contents ++ '}' :: rest) :=
    trimStart_blanks_cons hbehind (by decide) _
  obtain ⟨htake, hdrop⟩ := takeWhile_ne_append hunclosed rest
  simp only [Declaration.bracedValues?, Option.bind_eq_bind, hread, hequals, hopen,
    isPrefixOf?_eq_some_iff.mpr rfl, Option.bind_some, htake, hdrop]

/-! ### Initializers -/

/-- A text that begins with a record initializer. -/
def BeginsRecord (qualifier tag name contents s : Text) : Prop :=
  ∃ outer inner rest, outer ≠ [] ∧ (∀ c ∈ outer, isBlank c) ∧ inner ≠ [] ∧
    (∀ c ∈ inner, isBlank c) ∧ BeginsBraces name contents rest ∧
    s = qualifier ++ (outer ++ (tag ++ (inner ++ rest)))

theorem beginsRecord_of_recordAt? {qualifier tag s name contents : Text}
    (h : recordAt? qualifier tag s = some (name, contents)) :
    BeginsRecord qualifier tag name contents s := by
  simp only [recordAt?, Option.bind_eq_bind, Option.bind_eq_some_iff] at h
  obtain ⟨unqualified, hqualifier, htag⟩ := h
  obtain ⟨tagged, htagged, htag⟩ := List.exists_of_findSome?_eq_some htag
  obtain ⟨untagged, huntagged, hvalues⟩ := Option.bind_eq_some_iff.mp htag
  obtain ⟨rest, hrest, hbraced⟩ := List.exists_of_findSome?_eq_some hvalues
  rw [isPrefixOf?_eq_some_iff] at hqualifier huntagged
  obtain ⟨outer, houterNe, houter, rfl⟩ := Text.mem_afterBlanks_iff.mp htagged
  obtain ⟨inner, hinnerNe, hinner, rfl⟩ := Text.mem_afterBlanks_iff.mp hrest
  exact ⟨outer, inner, rest, houterNe, houter, hinnerNe, hinner,
    beginsBraces_of_bracedValues? hbraced, huntagged ▸ hqualifier⟩

theorem BeginsRecord.isIdentifier {qualifier tag name contents s : Text}
    (h : BeginsRecord qualifier tag name contents s) : IsIdentifier name := by
  obtain ⟨_, _, _, _, _, _, _, hbraces, _⟩ := h
  exact hbraces.isIdentifier

/-- In front of the name stand the qualifier, the tag and white space, which comes last. -/
theorem BeginsRecord.exists_lead {qualifier tag name contents s : Text}
    (h : BeginsRecord qualifier tag name contents s) :
    ∃ lead before more, s = lead ++ (name ++ (before ++ '=' :: more)) ∧ more ≠ [] ∧
      (∀ c ∈ before, isBlank c) ∧ lead ≠ [] ∧ (∀ c ∈ lead.getLast?, isBlank c) ∧
      ∀ c ∈ lead, c ∈ qualifier ∨ c ∈ tag ∨ isBlank c := by
  obtain ⟨outer, inner, rest, _, houter, hinnerNe, hinner, hbraces, rfl⟩ := h
  obtain ⟨_, _, before, behind, after, hbefore, _, rfl⟩ := hbraces
  refine ⟨qualifier ++ outer ++ tag ++ inner, before, behind ++ '{' :: (contents ++ '}' :: after),
    by simp only [List.append_assoc], by simp, hbefore,
    List.append_ne_nil_of_right_ne_nil _ hinnerNe, ?_, ?_⟩
  · intro c hc
    rw [List.getLast?_append_of_ne_nil _ hinnerNe] at hc
    exact hinner c (List.mem_of_getLast? hc)
  · intro c hc
    simp only [List.mem_append] at hc
    rcases hc with ((hc | hc) | hc) | hc
    · exact .inl hc
    · exact .inr (.inr (houter c hc))
    · exact .inr (.inl hc)
    · exact .inr (.inr (hinner c hc))

/-- A reader that answers on no white space answers behind a run of it, if it does at all. -/
theorem findSome?_afterBlanks {α : Type} {read : Text → Option α} {gap rest : Text} (hne : gap ≠ [])
    (hgap : ∀ c ∈ gap, isBlank c) (hrest : ∀ c, rest.head? = some c → isBlank c = false)
    (hread : ∀ c tail, isBlank c = true → read (c :: tail) = none) :
    (Text.afterBlanks (gap ++ rest)).findSome? read = read rest := by
  have hstop : Text.afterBlanks rest = [] := by
    cases rest with
    | nil => rfl
    | cons c rest => rw [Text.afterBlanks, hrest c rfl]; rfl
  induction gap with
  | nil => exact absurd rfl hne
  | cons c gap ih =>
    rw [List.forall_mem_cons] at hgap
    rw [List.cons_append, Text.afterBlanks, if_pos hgap.1, List.findSome?_cons]
    cases gap with
    | nil =>
      rw [List.nil_append, hstop]
      cases read rest <;> rfl
    | cons d gap =>
      rw [List.cons_append, hread d _ (hgap.2 d List.mem_cons_self)]
      exact ih (List.cons_ne_nil _ _) hgap.2

/-- A record initializer is read from the front of a text. -/
theorem BeginsRecord.recordAt? {qualifier tag name contents s : Text}
    (h : BeginsRecord qualifier tag name contents s) (htagNe : tag ≠ [])
    (htag : ∀ c, tag.head? = some c → isBlank c = false) :
    recordAt? qualifier tag s = some (name, contents) := by
  obtain ⟨outer, inner, rest, houterNe, houter, hinnerNe, hinner, hbraces, rfl⟩ := h
  obtain ⟨first, tag, rfl⟩ := List.exists_cons_of_ne_nil htagNe
  have hnamed : ∀ c, rest.head? = some c → isBlank c = false := by
    obtain ⟨hname, _, before, behind, after, _, _, rfl⟩ := hbraces
    obtain ⟨c, word, rfl, hc, _⟩ := hname.exists_cons
    rintro d ⟨rfl⟩
    exact isBlank_of_isNameStart hc
  have hbraced : (Text.afterBlanks (inner ++ rest)).findSome? bracedValues?
      = some (name, contents) := by
    rw [findSome?_afterBlanks hinnerNe hinner hnamed fun c tail hc => ?_]
    · exact hbraces.bracedValues?
    · rw [Declaration.bracedValues?, name?_cons_of_isBlank hc]
      rfl
  have htagged : ∀ c, (first :: tag ++ (inner ++ rest)).head? = some c → isBlank c = false := by
    rintro c ⟨rfl⟩
    exact htag first rfl
  rw [Declaration.recordAt?, isPrefixOf?_eq_some_iff.mpr rfl]
  show (Text.afterBlanks _).findSome? _ = _
  rw [findSome?_afterBlanks houterNe houter htagged fun c tail hc => ?_]
  · rw [isPrefixOf?_eq_some_iff.mpr rfl]
    exact hbraced
  · have hnone : (first :: tag).isPrefixOf? (c :: tail) = none := by
      by_contra hsome
      obtain ⟨after, hafter⟩ := Option.ne_none_iff_exists'.mp hsome
      obtain ⟨rfl, _⟩ := List.cons.inj (isPrefixOf?_eq_some_iff.mp hafter)
      cases hc.symm.trans (htag c rfl)
    rw [hnone]
    rfl

theorem BeginsRecord.record? {qualifier tag name contents s : Text}
    (h : BeginsRecord qualifier tag name contents s) (htagNe : tag ≠ [])
    (htag : ∀ c, tag.head? = some c → isBlank c = false) :
    record? qualifier tag s = some (name, contents) := by
  have hsearch : search (Declaration.recordAt? qualifier tag) s = some ([], (name, contents)) := by
    rw [search_eq_some_iff]
    exact ⟨s, rfl, h.recordAt? htagNe htag, fun _ _ _ hlength => absurd hlength (Nat.not_lt_zero _)⟩
  rw [Declaration.record?, hsearch]
  rfl

/-- The search for a record initializer answers with one that stands somewhere in the text. -/
theorem exists_of_record? {qualifier tag name contents s : Text}
    (h : record? qualifier tag s = some (name, contents)) :
    ∃ front rest, s = front ++ rest ∧ BeginsRecord qualifier tag name contents rest := by
  obtain ⟨⟨front, found⟩, hsearch, rfl⟩ := Option.map_eq_some_iff.mp h
  obtain ⟨rest, hsplit, hfound, _⟩ := search_eq_some_iff.mp hsearch
  exact ⟨front, rest, hsplit, beginsRecord_of_recordAt? hfound⟩

end StateOverlay.Declaration
