/-
What is printed is JSON.

The text of a value is one of the ways to write it, at any depth: the line breaks and the spaces
between its tokens are white space, and its strings spell what they hold:

* `spellsText_escaped` — a printed string spells its text;
* `isNumeral_ofNat` — a printed number is a number;
* `Value.document`, `Value.writes_render` — a printed value is written as the grammar says.
-/
import StateOverlay.Json.Printer
import StateOverlay.Proofs.Json.Grammar

namespace StateOverlay.Json

/-! ### Strings -/

/-- A printed character is spelled. -/
theorem spellsChar_escapedChar (c : Char) : SpellsChar c (escapedChar c) := by
  unfold escapedChar
  split
  · exact .letter (by decide)
  · exact .letter (by decide)
  · exact .letter (by decide)
  · exact .letter (by decide)
  · exact .letter (by decide)
  · exact .letter (by decide)
  · exact .letter (by decide)
  · case h_8 hquote hbackslash _ _ _ _ _ =>
    split
    · case isTrue hcontrol =>
      -- the code of a control has two digits, the first of them 0 or 1
      have hhigh : c.toNat / 16 < 16 := by omega
      have hlow : c.toNat % 16 < 16 := Nat.mod_lt _ (by decide)
      have hunit := SpellsUnit.digits (a := 0) (b := 0) (c := ⟨c.toNat / 16, hhigh⟩)
        (d := ⟨c.toNat % 16, hlow⟩) (.inl rfl) (.inl rfl) (.inl rfl) (.inl rfl)
      have hcode : ((((0 : Fin 16) : Nat) * 16 + ((0 : Fin 16) : Nat)) * 16 + c.toNat / 16) * 16
          + c.toNat % 16 = c.toNat := by
        show ((0 * 16 + 0) * 16 + c.toNat / 16) * 16 + c.toNat % 16 = c.toNat
        omega
      rw [hcode] at hunit
      exact .code hunit
    · case isFalse hprinted => exact .plain hquote hbackslash (Nat.le_of_not_lt hprinted)

/-- A printed string spells its text. -/
theorem spellsText_escaped (s : Text) : SpellsText s (s.flatMap escapedChar) := by
  induction s with
  | nil => exact .nil
  | cons c s ih => exact .cons (spellsChar_escapedChar c) ih

/-! ### Numbers -/

theorem head?_toDigits {n : Nat} (h : 0 < n) : (Nat.toDigits 10 n).head? ≠ some '0' := by
  induction n using Nat.strong_induction_on with
  | _ n ih =>
    rw [Nat.toDigits_eq_if (by decide)]
    split
    · intro hzero
      have := Nat.digitChar_eq_zero.mp (Option.some.inj hzero)
      omega
    · rw [List.head?_append_of_ne_nil _ Nat.toDigits_ne_nil]
      exact ih (n / 10) (by omega) (by omega)

theorem isDigits_ofNat (n : Nat) : IsDigits (Text.ofNat n) :=
  ⟨Nat.toDigits_ne_nil, fun _ => Nat.isDigit_of_mem_toDigits (by decide) (by decide)⟩

/-- A printed number is a number. -/
theorem isNumeral_ofNat (n : Nat) : IsNumeral (Text.ofNat n) := by
  have hwhole : IsWhole (Text.ofNat n) := by
    by_cases hn : n = 0
    · rw [hn]
      exact .inl rfl
    · exact .inr ⟨isDigits_ofNat n, head?_toDigits (Nat.pos_of_ne_zero hn)⟩
  exact ⟨[], _, [], [], by decide, hwhole, .inl rfl, .inl rfl, by rw [List.append_nil]; simp⟩

/-! ### Values -/

mutual

/-- A value as the grammar has it. -/
def Value.document : Value → Document
  | .text s => .string s
  | .number n => .number (Text.ofNat n)
  | .boolean b => .boolean b
  | .list items => .list (itemDocuments items)
  | .object members => .object (memberDocuments members)

def itemDocuments : List Value → List Document
  | [] => []
  | item :: items => item.document :: itemDocuments items

def memberDocuments : List (Text × Value) → List (Text × Document)
  | [] => []
  | (key, value) :: members => (key, value.document) :: memberDocuments members

end

theorem isSpace_newline (depth : Nat) : ∀ c ∈ newline depth, isSpace c = true := by
  intro c hc
  rw [newline, List.mem_cons] at hc
  rcases hc with rfl | hc
  · decide
  · rw [List.eq_of_mem_replicate hc]
    decide

theorem Spaced.gap_append {token s gap : Text} (h : Spaced token s)
    (hgap : ∀ c ∈ gap, isSpace c = true) : Spaced token (gap ++ s) := by
  obtain ⟨inner, hinner, rfl⟩ := h
  exact ⟨gap ++ inner, List.forall_mem_append.mpr ⟨hgap, hinner⟩, (List.append_assoc ..).symm⟩

/-- White space may stand in front of a value. -/
theorem Writes.gap_append {document : Document} {s gap : Text} (h : Writes (.value document) s)
    (hgap : ∀ c ∈ gap, isSpace c = true) : Writes (.value document) (gap ++ s) := by
  cases h with
  | null h => exact .null (h.gap_append hgap)
  | isFalse h => exact .isFalse (h.gap_append hgap)
  | isTrue h => exact .isTrue (h.gap_append hgap)
  | number hnumeral h => exact .number hnumeral (h.gap_append hgap)
  | string hbody h => exact .string hbody (h.gap_append hgap)
  | emptyList hopen hclose =>
    rw [← List.append_assoc]
    exact .emptyList (hopen.gap_append hgap) hclose
  | list hopen hfirst hrest =>
    rw [← List.append_assoc]
    exact .list (hopen.gap_append hgap) hfirst hrest
  | emptyObject hopen hclose =>
    rw [← List.append_assoc]
    exact .emptyObject (hopen.gap_append hgap) hclose
  | object hopen hfirst hrest =>
    rw [← List.append_assoc]
    exact .object (hopen.gap_append hgap) hfirst hrest

/-- A printed member is written. -/
theorem writes_member (key : Text) {document : Document} {s : Text} (depth : Nat)
    (h : Writes (.value document) s) :
    Writes (.member key document) (newline depth ++ stringText key ++ [':', ' '] ++ s) := by
  have hvalue : Writes (.value document) ([' '] ++ s) := h.gap_append (by decide)
  have hmember := Writes.member (spellsText_escaped key)
    ((spaced_self (quoted (key.flatMap escapedChar))).gap_append (isSpace_newline depth))
    (spaced_self [':']) hvalue
  simpa [stringText, quoted] using hmember

mutual

/-- A printed value is written as the grammar says. -/
theorem Value.writes_render (depth : Nat) :
    (value : Value) → Writes (.value value.document) (value.render depth)
  | .text s => by
    rw [Value.render]
    exact .string (spellsText_escaped s) (by simpa [stringText, quoted] using spaced_self _)
  | .number n => by
    rw [Value.render]
    exact .number (isNumeral_ofNat n) (spaced_self _)
  | .boolean true => by
    rw [Value.render]
    exact .isTrue (spaced_self _)
  | .boolean false => by
    rw [Value.render]
    exact .isFalse (spaced_self _)
  | .list [] => by
    rw [Value.render]
    exact .emptyList (spaced_self ['[']) (spaced_self [']'])
  | .list (item :: items) => by
    have hlist := Writes.list (spaced_self ['['])
      ((item.writes_render (depth + 1)).gap_append (isSpace_newline (depth + 1)))
      (writes_renderItems (depth + 1) depth items)
    rw [Value.render, Value.document, itemDocuments]
    simpa only [List.append_assoc] using hlist
  | .object [] => by
    rw [Value.render]
    exact .emptyObject (spaced_self ['{']) (spaced_self ['}'])
  | .object ((key, value) :: members) => by
    have hobject := Writes.object (spaced_self ['{'])
      (writes_member key (depth + 1) (value.writes_render (depth + 1)))
      (writes_renderMembers (depth + 1) depth members)
    rw [Value.render, Value.document, memberDocuments]
    simpa only [List.append_assoc] using hobject

theorem writes_renderItems (depth outer : Nat) : (items : List Value) →
    Writes (.items (itemDocuments items)) (renderItems depth items ++ (newline outer ++ [']']))
  | [] => .endList ((spaced_self [']']).gap_append (isSpace_newline outer))
  | item :: items => by
    have hnext := Writes.nextItem (spaced_self [','])
      ((item.writes_render depth).gap_append (isSpace_newline depth))
      (writes_renderItems depth outer items)
    rw [renderItems, itemDocuments]
    simpa only [List.append_assoc] using hnext

theorem writes_renderMembers (depth outer : Nat) : (members : List (Text × Value)) →
    Writes (.members (memberDocuments members))
      (renderMembers depth members ++ (newline outer ++ ['}']))
  | [] => .endObject ((spaced_self ['}']).gap_append (isSpace_newline outer))
  | (key, value) :: members => by
    have hnext := Writes.nextMember (spaced_self [','])
      (writes_member key depth (value.writes_render depth))
      (writes_renderMembers depth outer members)
    rw [renderMembers, memberDocuments]
    simpa only [List.append_assoc] using hnext

end

end StateOverlay.Json
