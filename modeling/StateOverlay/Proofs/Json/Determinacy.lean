/-
A JSON text holds one value.

The grammar says how values are written, and a text can be taken for a value in one way only: the
end of a value can be found by skipping it, and its first character tells its kind, part by part:

* `Writes.split` — where a value ends;
* `Writes.determines` — what each part is, from its text;
* `IsJsonText.unique` — so a text holds one value.
-/
import StateOverlay.Proofs.Json.Skipping

namespace StateOverlay.Json

/-- Two tokens in front of the same text are the same. -/
theorem Spaced.cancel {c d : Char} {token other s t rest after : Text} (hs : Spaced (c :: token) s)
    (ht : Spaced (d :: other) t) (hc : isSpace c = false) (hd : isSpace d = false)
    (h : s ++ rest = t ++ after) : c = d ∧ token ++ rest = other ++ after := by
  have hskipped := congrArg skipSpaces h
  rw [hs.skipSpaces_append hc, ht.skipSpaces_append hd] at hskipped
  exact List.cons.inj hskipped

theorem Spaced.cancel_mark {c d : Char} {s t rest after : Text} (hs : Spaced [c] s)
    (ht : Spaced [d] t) (hc : isSpace c = false) (hd : isSpace d = false)
    (h : s ++ rest = t ++ after) : c = d ∧ rest = after := hs.cancel ht hc hd h

/-- Two strings in front of the same text are the same. -/
theorem SpellsText.cancel {text other body body' s t rest after : Text}
    (hbody : SpellsText text body) (hbody' : SpellsText other body')
    (hs : Spaced (quoted body) s) (ht : Spaced (quoted body') t)
    (h : s ++ rest = t ++ after) : text = other ∧ rest = after := by
  obtain ⟨_, htail⟩ := hs.cancel ht (by decide) (by decide) h
  have hread := hbody.string rest
  simp only [List.append_assoc, List.singleton_append] at htail
  rw [htail, hbody'.string] at hread
  cases hread
  exact ⟨rfl, rfl⟩

/-- A value ends in one place. -/
theorem Writes.split {document other : Document} {s t rest after : Text}
    (hs : Writes (.value document) s) (ht : Writes (.value other) t) (hrest : Delimits rest)
    (hafter : Delimits after) (h : s ++ rest = t ++ after) : s = t ∧ rest = after := by
  have hskipped := hs.skipValue hrest
  rw [h, ht.skipValue hafter] at hskipped
  obtain rfl : after = rest := Except.ok.inj hskipped
  exact ⟨List.append_cancel_right h, rfl⟩

/-- Values in front of the same text are of one kind. -/
theorem Writes.kind_eq {document other : Document} {s t rest after : Text}
    (hs : Writes (.value document) s) (ht : Writes (.value other) t)
    (h : s ++ rest = t ++ after) : document.kind = other.kind := by
  obtain ⟨c, tail, hkind, _, hbegins⟩ := hs.begins
  obtain ⟨d, tail', hkind', _, hbegins'⟩ := ht.begins
  have hskipped := congrArg skipSpaces h
  rw [hbegins, hbegins'] at hskipped
  obtain ⟨rfl, _⟩ := List.cons.inj hskipped
  exact Option.some.inj (hkind.symm.trans hkind')

/-- No value begins like the end of a list. -/
theorem Writes.not_closing {document : Document} {s t rest after : Text}
    (hs : Writes (.value document) s) (ht : Spaced [']'] t) : s ++ rest ≠ t ++ after := by
  obtain ⟨c, tail, hkind, _, hbegins⟩ := hs.begins
  intro h
  have hskipped := congrArg skipSpaces h
  rw [hbegins, ht.skipSpaces_append (by decide)] at hskipped
  obtain ⟨rfl, _⟩ := List.cons.inj hskipped
  cases hkind

/-- No member begins like the end of an object. -/
theorem Writes.member_not_closing {key : Text} {document : Document} {s t rest after : Text}
    (hs : Writes (.member key document) s) (ht : Spaced ['}'] t) : s ++ rest ≠ t ++ after := by
  obtain ⟨tail, hbegins⟩ := hs.begins_member
  intro h
  have hskipped := congrArg skipSpaces h
  rw [hbegins, ht.skipSpaces_append (by decide)] at hskipped
  exact absurd (List.cons.inj hskipped).1 (by decide)

/-- What a part must be, because its text stands in front of some other. -/
def Determines : Part → Text → Prop
  | .value document, s => ∀ other t rest after, Writes (.value other) t → Delimits rest →
      Delimits after → s ++ rest = t ++ after → document = other
  | .items documents, s => ∀ others t rest after, Writes (.items others) t →
      s ++ rest = t ++ after → documents = others
  | .member key document, s => ∀ otherKey other t rest after, Writes (.member otherKey other) t →
      Delimits rest → Delimits after → s ++ rest = t ++ after →
      key = otherKey ∧ document = other ∧ rest = after
  | .members members, s => ∀ others t rest after, Writes (.members others) t →
      s ++ rest = t ++ after → members = others

/-- A value that is the only one of its kind is determined by its kind. -/
theorem determines_of_kind {document : Document} {s : Text} (hs : Writes (.value document) s)
    (h : ∀ other : Document, document.kind = other.kind → document = other) :
    Determines (.value document) s :=
  fun other _ _ _ ht _ _ heq => h other (hs.kind_eq ht heq)

/-- A number ends where it is skipped to. -/
theorem determines_number {numeral s : Text} (hnumeral : IsNumeral numeral)
    (h : Spaced numeral s) : Determines (.value (.number numeral)) s := by
  intro other t rest after ht hrest hafter heq
  have hkind := (Writes.number hnumeral h).kind_eq ht heq
  have hsplit := (Writes.number hnumeral h).split ht hrest hafter heq
  cases ht with
  | number hother h' =>
    obtain ⟨c, tail, rfl, hc⟩ := hnumeral.exists_cons
    obtain ⟨d, tail', rfl, hd⟩ := hother.exists_cons
    obtain ⟨rfl, htail⟩ := h.cancel h' (Kind.of?_number hc).2 (Kind.of?_number hd).2 heq
    rw [hsplit.2] at htail
    rw [List.append_cancel_right htail]
  | _ => cases hkind

/-- An item and the items behind it are determined together. -/
theorem Determines.item_items {document other : Document} {documents others : List Document}
    {s t u v rest after : Text} (hs : Determines (.value document) s)
    (ht : Determines (.items documents) t) (hitem : Writes (.value document) s)
    (hitems : Writes (.items documents) t) (hother : Writes (.value other) u)
    (hothers : Writes (.items others) v) (h : s ++ (t ++ rest) = u ++ (v ++ after)) :
    document :: documents = other :: others := by
  have hdelims := hitems.delimits_items rest
  have hdelims' := hothers.delimits_items after
  obtain ⟨_, hafter⟩ := hitem.split hother hdelims hdelims' h
  rw [hs other u _ _ hother hdelims hdelims' h, ht others v _ _ hothers hafter]

/-- A member and the members behind it are determined together. -/
theorem Determines.member_members {key otherKey : Text} {document other : Document}
    {members others : List (Text × Document)} {s t u v rest after : Text}
    (hs : Determines (.member key document) s) (ht : Determines (.members members) t)
    (hmembers : Writes (.members members) t) (hother : Writes (.member otherKey other) u)
    (hothers : Writes (.members others) v) (h : s ++ (t ++ rest) = u ++ (v ++ after)) :
    (key, document) :: members = (otherKey, other) :: others := by
  obtain ⟨rfl, rfl, hafter⟩ := hs otherKey other u _ _ hother (hmembers.delimits_members rest)
    (hothers.delimits_members after) h
  rw [ht others v _ _ hothers hafter]

/-- What is written determines what it is. -/
theorem Writes.determines {part : Part} {s : Text} (h : Writes part s) : Determines part s := by
  induction h with
  | null h =>
    refine determines_of_kind (.null h) fun other hkind => ?_
    cases other with
    | null => rfl
    | _ => cases hkind
  | isFalse h =>
    refine determines_of_kind (.isFalse h) fun other hkind => ?_
    cases other with
    | boolean => cases hkind; rfl
    | _ => cases hkind
  | isTrue h =>
    refine determines_of_kind (.isTrue h) fun other hkind => ?_
    cases other with
    | boolean => cases hkind; rfl
    | _ => cases hkind
  | number hnumeral h => exact determines_number hnumeral h
  | string hbody h =>
    intro other t rest after ht _ _ heq
    have hkind := (Writes.string hbody h).kind_eq ht heq
    cases ht with
    | string hbody' h' => rw [(hbody.cancel hbody' h h' heq).1]
    | _ => cases hkind
  | emptyList hopen hclose =>
    intro other t rest after ht _ _ heq
    have hkind := (Writes.emptyList hopen hclose).kind_eq ht heq
    simp only [List.append_assoc] at heq
    cases ht with
    | emptyList => rfl
    | list hopen' hfirst hrest =>
      simp only [List.append_assoc] at heq
      obtain ⟨_, heq⟩ := hopen.cancel_mark hopen' (by decide) (by decide) heq
      exact absurd heq.symm (hfirst.not_closing hclose)
    | _ => cases hkind
  | list hopen hfirst hrest ihFirst ihRest =>
    intro other t rest after ht _ _ heq
    have hkind := (Writes.list hopen hfirst hrest).kind_eq ht heq
    simp only [List.append_assoc] at heq
    cases ht with
    | emptyList hopen' hclose =>
      simp only [List.append_assoc] at heq
      obtain ⟨_, heq⟩ := hopen.cancel_mark hopen' (by decide) (by decide) heq
      exact absurd heq (hfirst.not_closing hclose)
    | list hopen' hfirst' hrest' =>
      simp only [List.append_assoc] at heq
      obtain ⟨_, heq⟩ := hopen.cancel_mark hopen' (by decide) (by decide) heq
      rw [ihFirst.item_items ihRest hfirst hrest hfirst' hrest' heq]
    | _ => cases hkind
  | endList hclose =>
    intro others t rest after ht heq
    cases ht with
    | endList => rfl
    | nextItem hcomma _ _ =>
      simp only [List.append_assoc] at heq
      exact absurd (hclose.cancel_mark hcomma (by decide) (by decide) heq).1 (by decide)
  | nextItem hcomma hnext hrest ihNext ihRest =>
    intro others t rest after ht heq
    simp only [List.append_assoc] at heq
    cases ht with
    | endList hclose =>
      exact absurd (hcomma.cancel_mark hclose (by decide) (by decide) heq).1 (by decide)
    | nextItem hcomma' hnext' hrest' =>
      simp only [List.append_assoc] at heq
      obtain ⟨_, heq⟩ := hcomma.cancel_mark hcomma' (by decide) (by decide) heq
      exact ihNext.item_items ihRest hnext hrest hnext' hrest' heq
  | emptyObject hopen hclose =>
    intro other t rest after ht _ _ heq
    have hkind := (Writes.emptyObject hopen hclose).kind_eq ht heq
    simp only [List.append_assoc] at heq
    cases ht with
    | emptyObject => rfl
    | object hopen' hfirst hrest =>
      simp only [List.append_assoc] at heq
      obtain ⟨_, heq⟩ := hopen.cancel_mark hopen' (by decide) (by decide) heq
      exact absurd heq.symm (hfirst.member_not_closing hclose)
    | _ => cases hkind
  | object hopen hfirst hrest ihFirst ihRest =>
    intro other t rest after ht _ _ heq
    have hkind := (Writes.object hopen hfirst hrest).kind_eq ht heq
    simp only [List.append_assoc] at heq
    cases ht with
    | emptyObject hopen' hclose =>
      simp only [List.append_assoc] at heq
      obtain ⟨_, heq⟩ := hopen.cancel_mark hopen' (by decide) (by decide) heq
      exact absurd heq (hfirst.member_not_closing hclose)
    | object hopen' hfirst' hrest' =>
      simp only [List.append_assoc] at heq
      obtain ⟨_, heq⟩ := hopen.cancel_mark hopen' (by decide) (by decide) heq
      rw [ihFirst.member_members ihRest hrest hfirst' hrest' heq]
    | _ => cases hkind
  | endObject hclose =>
    intro others t rest after ht heq
    cases ht with
    | endObject => rfl
    | nextMember hcomma _ _ =>
      simp only [List.append_assoc] at heq
      exact absurd (hclose.cancel_mark hcomma (by decide) (by decide) heq).1 (by decide)
  | nextMember hcomma hnext hrest ihNext ihRest =>
    intro others t rest after ht heq
    simp only [List.append_assoc] at heq
    cases ht with
    | endObject hclose =>
      exact absurd (hcomma.cancel_mark hclose (by decide) (by decide) heq).1 (by decide)
    | nextMember hcomma' hnext' hrest' =>
      simp only [List.append_assoc] at heq
      obtain ⟨_, heq⟩ := hcomma.cancel_mark hcomma' (by decide) (by decide) heq
      exact ihNext.member_members ihRest hrest hnext' hrest' heq
  | member hbody hkey hcolon hvalue ihValue =>
    intro otherKey other t rest after ht hrest hafter heq
    cases ht with
    | member hbody' hkey' hcolon' hvalue' =>
      simp only [List.append_assoc] at heq
      obtain ⟨rfl, heq⟩ := hbody.cancel hbody' hkey hkey' heq
      obtain ⟨_, heq⟩ := hcolon.cancel_mark hcolon' (by decide) (by decide) heq
      obtain rfl := ihValue _ _ _ _ hvalue' hrest hafter heq
      exact ⟨rfl, rfl, (hvalue.split hvalue' hrest hafter heq).2⟩

/-- A text holds one value at most. -/
theorem IsJsonText.unique {document other : Document} {s : Text} (h : IsJsonText document s)
    (h' : IsJsonText other s) : document = other := by
  obtain ⟨value, gap, hvalue, hgap, rfl⟩ := h
  obtain ⟨value', gap', hvalue', hgap', heq⟩ := h'
  exact hvalue.determines _ _ _ _ hvalue' (delimits_of_spaces hgap) (delimits_of_spaces hgap') heq

end StateOverlay.Json
