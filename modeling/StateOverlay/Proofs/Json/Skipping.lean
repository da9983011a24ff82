/-
Skipping what the grammar allows.

A value that nobody asked for is skipped to its end, however it is written and however deep its
lists and objects are:

* `skipValue_eq`, `skipOut_eq` — one step of the skipping;
* `Skips`, `Writes.skips` — each part of a value is skipped;
* `Writes.skipValue` — so the value is.
-/
import StateOverlay.Json.Skip
import StateOverlay.Proofs.Json.Scalars

namespace StateOverlay.Json

/-! ### Steps -/

/-- A value is skipped by its first character. -/
theorem skipValue_eq (stack : List Bracket) (s : Text) :
    skipValue stack s =
      match skipSpaces s with
      | [] => failAt .endInValue [] 0
      | c :: rest =>
        match Bracket.openedBy? c with
        | some bracket =>
          match skipSpaces rest with
          | [] => failAt bracket.atEnd [] 0
          | d :: inside =>
            if d = bracket.closing then skipOut stack inside
            else (skipKey bracket (d :: inside)).bind (skipValue (bracket :: stack))
        | none => (skipScalar (c :: rest)).bind (skipOut stack) := by
  rw [skipValue]
  repeat' split
  all_goals simp_all [Except.bind]

/-- Behind an item its bracket is closed, or a comma leads to the next item. -/
theorem skipOut_eq (bracket : Bracket) (stack : List Bracket) (s : Text) :
    skipOut (bracket :: stack) s =
      match skipSpaces s with
      | [] => failAt bracket.atEnd [] 0
      | c :: rest =>
        if c = bracket.closing then skipOut stack rest
        else if c = ',' then (skipKey bracket rest).bind (skipValue (bracket :: stack))
        else failAt bracket.unexpected (c :: rest) 1 := by
  rw [skipOut.eq_def]
  dsimp only
  split
  · case h_1 hs => rw [hs]
  · case h_2 c rest hs =>
    rw [hs]
    dsimp only
    split
    · rfl
    · split
      · split
        · case h_1 hkey => simp [hkey, Except.bind]
        · case h_2 hkey => simp [hkey, Except.bind]
      · rfl

theorem skipValue_skipSpaces (stack : List Bracket) (s : Text) :
    skipValue stack (skipSpaces s) = skipValue stack s := by
  rw [skipValue_eq, skipValue_eq, skipSpaces_skipSpaces]

theorem skipKey_skipSpaces (stack : List Bracket) (bracket : Bracket) (s : Text) :
    (skipKey bracket (skipSpaces s)).bind (skipValue stack)
      = (skipKey bracket s).bind (skipValue stack) := by
  cases bracket with
  | list => exact skipValue_skipSpaces stack s
  | object => rw [skipKey, skipKey, skipSpaces_skipSpaces]

/-- The character that opens a bracket. -/
def Bracket.opening : Bracket → Char
  | .list => '['
  | .object => '{'

theorem Bracket.openedBy?_opening (bracket : Bracket) :
    Bracket.openedBy? bracket.opening = some bracket := by cases bracket <;> rfl

theorem Bracket.isSpace_opening (bracket : Bracket) : isSpace bracket.opening = false := by
  cases bracket <;> decide

theorem Bracket.isSpace_closing (bracket : Bracket) : isSpace bracket.closing = false := by
  cases bracket <;> decide

/-- A bracket with nothing in it is skipped. -/
theorem skipValue_emptyBracket (bracket : Bracket) {s t : Text} (hs : Spaced [bracket.opening] s)
    (ht : Spaced [bracket.closing] t) (stack : List Bracket) (rest : Text) :
    skipValue stack (s ++ t ++ rest) = skipOut stack rest := by
  rw [skipValue_eq, List.append_assoc, hs.skipSpaces_append bracket.isSpace_opening]
  simp only [List.nil_append, bracket.openedBy?_opening,
    ht.skipSpaces_append bracket.isSpace_closing, if_true]

/-- Skipping goes on inside a bracket with something in it. -/
theorem skipValue_bracket (bracket : Bracket) {s inside tail : Text} {d : Char}
    (hs : Spaced [bracket.opening] s) (hinside : skipSpaces inside = d :: tail)
    (hd : d ≠ bracket.closing) (stack : List Bracket) :
    skipValue stack (s ++ inside)
      = (skipKey bracket inside).bind (skipValue (bracket :: stack)) := by
  rw [skipValue_eq, hs.skipSpaces_append bracket.isSpace_opening, ← skipKey_skipSpaces]
  simp only [List.nil_append, bracket.openedBy?_opening, hinside, if_neg hd]

theorem skipOut_closing (bracket : Bracket) {s : Text} (hs : Spaced [bracket.closing] s)
    (stack : List Bracket) (rest : Text) :
    skipOut (bracket :: stack) (s ++ rest) = skipOut stack rest := by
  rw [skipOut_eq, hs.skipSpaces_append bracket.isSpace_closing]
  simp only [List.nil_append, if_true]

theorem skipOut_comma {bracket : Bracket} {s : Text} (hs : Spaced [','] s) (stack : List Bracket)
    (rest : Text) :
    skipOut (bracket :: stack) (s ++ rest)
      = (skipKey bracket rest).bind (skipValue (bracket :: stack)) := by
  have hcomma : ',' ≠ bracket.closing := by cases bracket <;> decide
  rw [skipOut_eq, hs.skipSpaces_append (by decide)]
  simp only [List.nil_append, if_neg hcomma, if_true]

theorem skipValue_scalar {s after : Text} {c : Char} {tail : Text} (hs : skipSpaces s = c :: tail)
    (hc : Bracket.openedBy? c = none) (hscalar : skipScalar (c :: tail) = .ok after)
    (stack : List Bracket) : skipValue stack s = skipOut stack after := by
  rw [skipValue_eq, hs]
  simp only [hc, hscalar, Except.bind]

theorem openedBy?_number {c : Char} (h : c = '-' ∨ c.isDigit = true) :
    Bracket.openedBy? c = none := by
  have hkind := (Kind.of?_number h).1
  have hne : c ≠ '[' ∧ c ≠ '{' := by
    constructor <;> rintro rfl <;> cases hkind
  rw [Bracket.openedBy?, if_neg hne.1, if_neg hne.2]

/-! ### Parts -/

theorem Spaced.delimits {c : Char} {token s : Text} (h : Spaced (c :: token) s)
    (hc : c ∈ [',', ']', '}']) (rest : Text) : Delimits (s ++ rest) := by
  obtain ⟨gap, hgap, rfl⟩ := h
  cases gap with
  | nil =>
    rintro d ⟨rfl⟩
    simp only [List.mem_cons, List.not_mem_nil, or_false] at hc
    rcases hc with rfl | rfl | rfl <;> decide
  | cons space gap =>
    intro d hd
    exact delimits_of_spaces hgap d hd

/-- What follows an item delimits it. -/
theorem Writes.delimits_items {documents : List Document} {s : Text}
    (h : Writes (.items documents) s) (rest : Text) : Delimits (s ++ rest) := by
  cases h with
  | endList hclose => exact hclose.delimits (by decide) rest
  | nextItem hcomma _ _ =>
    rw [List.append_assoc]
    exact hcomma.delimits (by decide) _

/-- What follows a member delimits it. -/
theorem Writes.delimits_members {members : List (Text × Document)} {s : Text}
    (h : Writes (.members members) s) (rest : Text) : Delimits (s ++ rest) := by
  cases h with
  | endObject hclose => exact hclose.delimits (by decide) rest
  | nextMember hcomma _ _ =>
    rw [List.append_assoc]
    exact hcomma.delimits (by decide) _

/-- A key and its colon are skipped. -/
theorem skipKey_append {key body s t : Text} (hbody : SpellsText key body)
    (hs : Spaced (quoted body) s) (ht : Spaced [':'] t) (rest : Text) :
    skipKey .object (s ++ (t ++ rest)) = .ok rest := by
  simp only [skipKey, hs.skipSpaces_append (by decide), List.append_assoc, List.singleton_append,
    hbody.skipString, ht.skipSpaces_append (by decide), List.nil_append]

/-- How a part is skipped, whatever brackets are open around it. -/
def Skips : Part → Text → Prop
  | .value _, s => ∀ stack rest, Delimits rest → skipValue stack (s ++ rest) = skipOut stack rest
  | .items _, s => ∀ stack rest, skipOut (.list :: stack) (s ++ rest) = skipOut stack rest
  | .member _ _, s => ∀ stack rest, Delimits rest →
      (skipKey .object (s ++ rest)).bind (skipValue (.object :: stack))
        = skipOut (.object :: stack) rest
  | .members _, s => ∀ stack rest, skipOut (.object :: stack) (s ++ rest) = skipOut stack rest

theorem Writes.skips {part : Part} {s : Text} (h : Writes part s) : Skips part s := by
  induction h with
  | null h =>
    intro stack rest _
    exact skipValue_scalar (h.skipSpaces_append (by decide) rest) (by decide)
      (word_append "ull".toList rest) stack
  | isFalse h =>
    intro stack rest _
    exact skipValue_scalar (h.skipSpaces_append (by decide) rest) (by decide)
      (word_append "alse".toList rest) stack
  | isTrue h =>
    intro stack rest _
    exact skipValue_scalar (h.skipSpaces_append (by decide) rest) (by decide)
      (word_append "rue".toList rest) stack
  | number hnumeral h =>
    intro stack rest hrest
    obtain ⟨c, tail, rfl, hc⟩ := hnumeral.exists_cons
    exact skipValue_scalar (h.skipSpaces_append (Kind.of?_number hc).2 rest)
      (openedBy?_number hc)
      (hnumeral.skipScalar hrest) stack
  | string hbody h =>
    intro stack rest _
    refine skipValue_scalar (h.skipSpaces_append (by decide) rest) (by decide) ?_ stack
    show skipString _ = _
    rw [List.append_assoc]
    exact hbody.skipString rest
  | emptyList hopen hclose =>
    intro stack rest _
    exact skipValue_emptyBracket .list hopen hclose stack rest
  | list hopen hfirst hrest ihFirst ihRest =>
    intro stack rest _
    obtain ⟨c, tail, hkind, _, hbegins⟩ := hfirst.begins
    have hc : c ≠ ']' := by
      rintro rfl
      cases hkind
    rw [List.append_assoc, List.append_assoc,
      skipValue_bracket .list hopen (hbegins _) hc]
    show skipValue _ _ = _
    rw [ihFirst _ _ (hrest.delimits_items rest), ihRest]
  | endList hclose => exact fun stack rest => skipOut_closing .list hclose stack rest
  | nextItem hcomma hnext hrest ihNext ihRest =>
    intro stack rest
    rw [List.append_assoc, skipOut_comma hcomma, List.append_assoc, skipKey]
    show skipValue _ _ = _
    rw [ihNext _ _ (hrest.delimits_items rest), ihRest]
  | emptyObject hopen hclose =>
    intro stack rest _
    exact skipValue_emptyBracket .object hopen hclose stack rest
  | object hopen hfirst hrest ihFirst ihRest =>
    intro stack rest _
    obtain ⟨tail, hbegins⟩ := hfirst.begins_member
    rw [List.append_assoc, List.append_assoc,
      skipValue_bracket .object hopen (hbegins _) (by decide),
      ihFirst _ _ (hrest.delimits_members rest), ihRest]
  | endObject hclose => exact fun stack rest => skipOut_closing .object hclose stack rest
  | nextMember hcomma hnext hrest ihNext ihRest =>
    intro stack rest
    rw [List.append_assoc, skipOut_comma hcomma, List.append_assoc,
      ihNext _ _ (hrest.delimits_members rest), ihRest]
  | member hbody hkey hcolon _ ihValue =>
    intro stack rest hrest
    rw [List.append_assoc, List.append_assoc, skipKey_append hbody hkey hcolon]
    exact ihValue _ _ hrest

/-- A value is skipped up to its end. -/
theorem Writes.skipValue {document : Document} {s : Text} (h : Writes (.value document) s)
    {rest : Text} (hrest : Delimits rest) : skipValue [] (s ++ rest) = .ok rest := by
  rw [h.skips [] rest hrest, skipOut.eq_def]

end StateOverlay.Json
