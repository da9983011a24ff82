/-
Reading values of a known shape from what the grammar allows.

What a reader makes of a value does not depend on how the value is written.  A structure is read
from the members of an object in their order, past those with unknown keys, and if a known key comes
a second time it is read no further:

* `Settles` — what a reader makes of a value, however it is written;
* `settles_text`, `settles_list`, `Settles.map` — strings, lists and values made of others;
* `Fills`, `Fills.settles` — structures.
-/
import Mathlib.Data.List.Nodup
import StateOverlay.Json.Reader
import StateOverlay.Proofs.Json.Skipping

namespace StateOverlay.Json

/-- An answer of a reader in front of some text: a value, or the fault of a field given twice. -/
def Answers {α : Type} (outcome : Except Text α) (rest : Text)
    (answer : Except Fault (α × Text)) : Prop :=
  match outcome with
  | .ok value => answer = .ok (value, rest)
  | .error key => ∃ fault, answer = .error fault ∧ fault.problem = .duplicateField key

/-- What a reader makes of a value, however it is written. -/
def Settles {α : Type} (reader : Reader α) (document : Document) (outcome : Except Text α) : Prop :=
  ∀ s rest, Writes (.value document) s → Answers outcome rest (reader.read (s ++ rest))

theorem Settles.read {α : Type} {reader : Reader α} {document : Document} {value : α}
    (h : Settles reader document (.ok value)) {s : Text} (hs : Writes (.value document) s)
    (rest : Text) : reader.read (s ++ rest) = .ok (value, rest) := h s rest hs

theorem Settles.map {α β : Type} {reader : Reader α} {document : Document}
    {outcome : Except Text α} (h : Settles reader document outcome) (f : α → β) :
    Settles (reader.map f) document (outcome.map f) := by
  intro s rest hs
  have hanswer := h s rest hs
  show Answers _ rest ((reader.read (s ++ rest)).map _)
  cases outcome with
  | ok value =>
    have hread : reader.read (s ++ rest) = .ok (value, rest) := hanswer
    rw [hread]
    rfl
  | error key =>
    obtain ⟨fault, hread, hproblem⟩ := hanswer
    rw [hread]
    exact ⟨fault, rfl, hproblem⟩

/-- A string is read as its text. -/
theorem settles_text (value : Text) : Settles Reader.text (.string value) (.ok value) := by
  intro s rest hs
  cases hs with
  | string hbody h =>
    show readText (s ++ rest) = _
    rw [readText, h.skipSpaces_append (by decide), List.append_assoc]
    exact hbody.string rest

theorem settles_fieldText {σ : Type} (key : String) (store : σ → Text → σ) (state : σ)
    (value : Text) :
    Settles ((FieldReader.text key store).read state) (.string value) (.ok (store state value)) :=
  (settles_text value).map (store state)

/-! ### Lists -/

/-- What is left of a list in front of some text, and whether nothing of it is read yet. -/
inductive ItemsLeft (rest : Text) : Bool → List Document → Text → Prop where
  | close {isFirst : Bool} {s : Text} (hs : Spaced [']'] s) : ItemsLeft rest isFirst [] (s ++ rest)
  | item {isFirst : Bool} {document : Document} {documents : List Document} {s t u : Text}
      (ht : Writes (.value document) t) (hu : Writes (.items documents) u)
      (hs : nextItem isFirst s = .ok (true, t ++ (u ++ rest))) :
      ItemsLeft rest isFirst (document :: documents) s

theorem itemsLeft_first {document : Document} {documents : List Document} {t u : Text}
    (ht : Writes (.value document) t) (hu : Writes (.items documents) u) (rest : Text) :
    ItemsLeft rest true (document :: documents) (t ++ (u ++ rest)) := by
  obtain ⟨c, tail, hkind, hwrites, hbegins⟩ := ht.begins
  have hc : c ≠ ']' := by
    rintro rfl
    cases hkind
  refine .item hwrites hu ?_
  rw [nextItem, hbegins]
  simp [hc]

theorem Writes.itemsLeft {documents : List Document} {s : Text} (h : Writes (.items documents) s)
    (rest : Text) : ItemsLeft rest false documents (s ++ rest) := by
  cases h with
  | endList hclose => exact .close hclose
  | nextItem hcomma hnext hrest =>
    obtain ⟨c, tail, hkind, hwrites, hbegins⟩ := hnext.begins
    have hc : c ≠ ']' := by
      rintro rfl
      cases hkind
    refine .item hwrites hrest ?_
    rw [Json.nextItem, List.append_assoc, hcomma.skipSpaces_append (by decide)]
    simp [List.append_assoc, hbegins, hc]

/-- The items of a list are read one after another. -/
theorem ItemsLeft.items {α : Type} {item : Reader α} {documents : List Document} {values : List α}
    (hitems : List.Forall₂ (fun document value => Settles item document (.ok value))
      documents values)
    {isFirst : Bool} {s rest : Text} (hs : ItemsLeft rest isFirst documents s) :
    items item isFirst s = .ok (values, ']' :: rest) := by
  induction hitems generalizing isFirst s with
  | nil =>
    cases hs with
    | @close s hs =>
      have hnext : nextItem isFirst (s ++ rest) = .ok (false, ']' :: rest) := by
        rw [nextItem, hs.skipSpaces_append (by decide)]
        rfl
      rw [Json.items]
      split
      · case h_1 hfault => cases hfault.symm.trans hnext
      · case h_2 hend =>
        cases hend.symm.trans hnext
        rfl
      · case h_3 hitem => cases hitem.symm.trans hnext
  | cons hvalue _ ih =>
    cases hs with
    | item ht hu hs =>
      have hread := hvalue.read ht
      rw [Json.items]
      split
      · case h_1 hfault => cases hfault.symm.trans hs
      · case h_2 hend => cases hend.symm.trans hs
      · case h_3 hitem =>
        cases hitem.symm.trans hs
        split
        · case h_1 hfault => cases hfault.symm.trans (hread _)
        · case h_2 hvalue =>
          cases hvalue.symm.trans (hread _)
          rw [ih (hu.itemsLeft rest)]
          rfl

/-- A list is read from its items. -/
theorem settles_list {α : Type} {item : Reader α} {documents : List Document} {values : List α}
    (hitems : List.Forall₂ (fun document value => Settles item document (.ok value))
      documents values) :
    Settles (Reader.list item) (.list documents) (.ok values) := by
  intro s rest hs
  have hread : ∀ open' inside, Spaced ['['] open' → ItemsLeft rest true documents inside →
      readList item (open' ++ inside) = .ok (values, rest) := by
    intro open' inside hopen hinside
    rw [readList, hopen.skipSpaces_append (by decide)]
    simp only [List.nil_append, hinside.items hitems]
    rw [listEnd, skipSpaces_cons (by decide)]
    rfl
  cases hs with
  | emptyList hopen hclose =>
    rw [List.append_assoc]
    exact hread _ _ hopen (.close hclose)
  | list hopen hfirst hrest =>
    rw [List.append_assoc, List.append_assoc]
    exact hread _ _ hopen (itemsLeft_first hfirst hrest rest)

/-! ### Structures -/

/-- What is left of an object in front of some text, and whether nothing of it is read yet. -/
inductive MembersLeft (rest : Text) : Bool → List (Text × Document) → Text → Prop where
  | close {isFirst : Bool} {s : Text} (hs : Spaced ['}'] s) :
      MembersLeft rest isFirst [] (s ++ rest)
  | member {isFirst : Bool} {key body : Text} {document : Document}
      {members : List (Text × Document)} {s t u v : Text} (hbody : SpellsText key body)
      (ht : Spaced [':'] t) (hu : Writes (.value document) u) (hv : Writes (.members members) v)
      (hs : nextKey isFirst s = .ok (true, body ++ '"' :: (t ++ (u ++ (v ++ rest))))) :
      MembersLeft rest isFirst ((key, document) :: members) s

theorem membersLeft_first {key : Text} {document : Document} {members : List (Text × Document)}
    {t u : Text} (ht : Writes (.member key document) t) (hu : Writes (.members members) u)
    (rest : Text) : MembersLeft rest true ((key, document) :: members) (t ++ (u ++ rest)) := by
  cases ht with
  | member hbody hkey hcolon hvalue =>
    refine .member hbody hcolon hvalue hu ?_
    rw [nextKey, List.append_assoc, hkey.skipSpaces_append (by decide)]
    simp [List.append_assoc]

theorem Writes.membersLeft {members : List (Text × Document)} {s : Text}
    (h : Writes (.members members) s) (rest : Text) :
    MembersLeft rest false members (s ++ rest) := by
  cases h with
  | endObject hclose => exact .close hclose
  | nextMember hcomma hnext hrest =>
    cases hnext with
    | member hbody hkey hcolon hvalue =>
      refine .member hbody hcolon hvalue hrest ?_
      have hquote := hkey.skipSpaces_append (by decide)
      rw [nextKey, List.append_assoc, hcomma.skipSpaces_append (by decide)]
      simp [List.append_assoc, hquote]

/-- What a structure is read as from the members of an object: those that are left, the keys that
are read already, and the structure so far. -/
inductive Fills {σ : Type} (fields : List (FieldReader σ)) :
    List Text → σ → List (Text × Document) → Except Text σ → Prop where
  | done {seen : List Text} {state : σ} : Fills fields seen state [] (.ok state)
  | unknown {seen : List Text} {state : σ} {key : Text} {document : Document}
      {members : List (Text × Document)} {outcome : Except Text σ}
      (hkey : fields.find? (·.key == key) = none)
      (hrest : Fills fields seen state members outcome) :
      Fills fields seen state ((key, document) :: members) outcome
  | known {seen : List Text} {state updated : σ} {key : Text} {document : Document}
      {members : List (Text × Document)} {outcome : Except Text σ} {field : FieldReader σ}
      (hkey : fields.find? (·.key == key) = some field) (hnew : key ∉ seen)
      (hvalue : Settles (field.read state) document (.ok updated))
      (hrest : Fills fields (key :: seen) updated members outcome) :
      Fills fields seen state ((key, document) :: members) outcome
  /-- A key that is read already. -/
  | again {seen : List Text} {state : σ} {key : Text} {document : Document}
      {members : List (Text × Document)} {field : FieldReader σ}
      (hkey : fields.find? (·.key == key) = some field) (hseen : key ∈ seen) :
      Fills fields seen state ((key, document) :: members) (.error key)
  /-- A key whose value gives one of its own fields twice. -/
  | inside {seen : List Text} {state : σ} {key inner : Text} {document : Document}
      {members : List (Text × Document)} {field : FieldReader σ}
      (hkey : fields.find? (·.key == key) = some field) (hnew : key ∉ seen)
      (hvalue : Settles (field.read state) document (.error inner)) :
      Fills fields seen state ((key, document) :: members) (.error inner)

/-- A member is read by its key. -/
theorem members_of_nextKey {σ : Type} {fields : List (FieldReader σ)} {seen : List Text}
    {isFirst : Bool} {state : σ} {key body s t rest : Text} (hbody : SpellsText key body)
    (ht : Spaced [':'] t) (hs : nextKey isFirst s = .ok (true, body ++ '"' :: (t ++ rest))) :
    members fields seen isFirst state s =
      match fields.find? (·.key == key) with
      | none => (skipValue [] rest).bind (members fields seen false state)
      | some field =>
        if seen.contains key then failAt (.duplicateField key) (pastBrace (t ++ rest)) 0
        else ((field.read state).read rest).bind fun (updated, rest) =>
          members fields (key :: seen) false updated rest := by
  have hkey := hbody.string (t ++ rest)
  have hcolon : colon (t ++ rest) = .ok rest := by
    rw [colon, ht.skipSpaces_append (by decide)]
    rfl
  rw [members]
  split
  · case h_1 hfault => cases hfault.symm.trans hs
  · case h_2 hend => cases hend.symm.trans hs
  · case h_3 hfound =>
    cases hfound.symm.trans hs
    split
    · case h_1 hfault => cases hfault.symm.trans hkey
    · case h_2 hfound =>
      cases hfound.symm.trans hkey
      cases fields.find? (·.key == key) with
      | none =>
        dsimp only
        split
        · case h_1 hfault => cases hfault.symm.trans hcolon
        · case h_2 hleft =>
          cases hleft.symm.trans hcolon
          split
          · case h_1 hskip => rw [hskip, Except.bind]
          · case h_2 hskip => rw [hskip, Except.bind]
      | some field =>
        dsimp only
        split
        · rfl
        · split
          · case h_1 hfault => cases hfault.symm.trans hcolon
          · case h_2 hleft =>
            cases hleft.symm.trans hcolon
            split
            · case h_1 hread => rw [hread, Except.bind]
            · case h_2 hread => rw [hread, Except.bind]

/-- The members of an object are read one after another. -/
theorem Fills.members {σ : Type} {fields : List (FieldReader σ)} {seen : List Text} {state : σ}
    {members : List (Text × Document)} {outcome : Except Text σ}
    (h : Fills fields seen state members outcome) {isFirst : Bool} {s rest : Text}
    (hs : MembersLeft rest isFirst members s) :
    Answers outcome ('}' :: rest) (Json.members fields seen isFirst state s) := by
  induction h generalizing isFirst s with
  | done =>
    cases hs with
    | @close s hs =>
      have hnext : nextKey isFirst (s ++ rest) = .ok (false, '}' :: rest) := by
        rw [nextKey, hs.skipSpaces_append (by decide)]
        rfl
      rw [Json.members]
      split
      · case h_1 hfault => cases hfault.symm.trans hnext
      · case h_2 hend =>
        cases hend.symm.trans hnext
        rfl
      · case h_3 hkey => cases hkey.symm.trans hnext
  | unknown hkey _ ih =>
    cases hs with
    | member hbody ht hu hv hs =>
      rw [members_of_nextKey hbody ht hs, hkey]
      dsimp only
      rw [hu.skipValue (hv.delimits_members rest)]
      exact ih (hv.membersLeft rest)
  | known hkey hnew hvalue _ ih =>
    cases hs with
    | member hbody ht hu hv hs =>
      rw [members_of_nextKey hbody ht hs, hkey]
      dsimp only
      rw [if_neg (by simpa using hnew), hvalue.read hu]
      exact ih (hv.membersLeft rest)
  | again hkey hseen =>
    cases hs with
    | member hbody ht hu hv hs =>
      rw [members_of_nextKey hbody ht hs, hkey]
      dsimp only
      rw [if_pos (by simpa using hseen)]
      exact ⟨_, rfl, rfl⟩
  | inside hkey hnew hvalue =>
    cases hs with
    | member hbody ht hu hv hs =>
      obtain ⟨fault, hread, hproblem⟩ := hvalue _ _ hu
      rw [members_of_nextKey hbody ht hs, hkey]
      dsimp only
      rw [if_neg (by simpa using hnew), hread]
      exact ⟨fault, rfl, hproblem⟩

/-- A structure is read from an object. -/
theorem Fills.settles {σ : Type} {title : Text} {fields : List (FieldReader σ)} {default : σ}
    {members : List (Text × Document)} {outcome : Except Text σ}
    (h : Fills fields [] default members outcome) :
    Settles (Reader.record title fields default) (.object members) outcome := by
  intro s rest hs
  have hread : ∀ open' inside, Spaced ['{'] open' → MembersLeft rest true members inside →
      Answers outcome rest (readRecord title fields default (open' ++ inside)) := by
    intro open' inside hopen hinside
    have hmembers := h.members hinside
    rw [readRecord, hopen.skipSpaces_append (by decide), List.nil_append]
    cases outcome with
    | ok value =>
      have hfilled : Json.members fields [] true default inside = .ok (value, '}' :: rest) :=
        hmembers
      simp only [hfilled]
      rw [pastBrace, skipSpaces_cons (by decide)]
      rfl
    | error key =>
      obtain ⟨fault, hfault, hproblem⟩ := hmembers
      simp only [hfault]
      exact ⟨fault, rfl, hproblem⟩
  cases hs with
  | emptyObject hopen hclose =>
    rw [List.append_assoc]
    exact hread _ _ hopen (.close hclose)
  | object hopen hfirst hrest =>
    rw [List.append_assoc, List.append_assoc]
    exact hread _ _ hopen (membersLeft_first hfirst hrest rest)

/-- The keys of some fields. -/
def keys {σ : Type} (fields : List (FieldReader σ)) : List Text := fields.map FieldReader.key

theorem find?_key_eq_none_iff {σ : Type} {fields : List (FieldReader σ)} {key : Text} :
    fields.find? (·.key == key) = none ↔ key ∉ keys fields := by
  simp [keys, List.find?_eq_none]

theorem mem_keys_of_find? {σ : Type} {fields : List (FieldReader σ)} {field : FieldReader σ}
    {key : Text} (h : fields.find? (·.key == key) = some field) : key ∈ keys fields := by
  by_contra hkey
  cases h.symm.trans (find?_key_eq_none_iff.mpr hkey)

section Members

variable {σ : Type} {fields : List (FieldReader σ)} {members : List (Text × Document)}
  {seen : List Text}

/-- If every member leads from the structure that belongs to the members before it to the one that
belongs to it too, and no known key comes twice, the structure that belongs to all of them is
read. -/
theorem fills_ok (filled : List (Text × Document) → σ) {done : List (Text × Document)}
    (hknown : ∀ member ∈ members, ∀ done field,
      fields.find? (·.key == member.1) = some field → member.1 ∉ done.map Prod.fst →
      Settles (field.read (filled done)) member.2 (.ok (filled (member :: done))))
    (hunknown : ∀ member done, member.1 ∉ keys fields → filled (member :: done) = filled done)
    (hseen : ∀ key ∈ keys fields, key ∈ seen ↔ key ∈ done.map Prod.fst)
    (honce : ∀ key ∈ keys fields,
      (done.map Prod.fst).count key + (members.map Prod.fst).count key ≤ 1) :
    Fills fields seen (filled done) members (.ok (filled (members.reverse ++ done))) := by
  induction members generalizing seen done with
  | nil => exact .done
  | cons member members ih =>
    obtain ⟨key, document⟩ := member
    rw [List.forall_mem_cons] at hknown
    have hlater : ∀ other ∈ keys fields,
        (((key, document) :: done).map Prod.fst).count other
          + (members.map Prod.fst).count other ≤ 1 := by
      intro other hother
      have := honce other hother
      simp only [List.map_cons, List.count_cons] at this ⊢
      omega
    rw [List.reverse_cons, List.append_assoc, List.singleton_append]
    cases hfield : fields.find? (·.key == key) with
    | none =>
      have hkey := find?_key_eq_none_iff.mp hfield
      rw [← hunknown (key, document) done hkey]
      refine .unknown hfield (ih hknown.2 (fun other hother => ?_) hlater)
      rw [hseen other hother, List.map_cons, List.mem_cons]
      refine ⟨.inr, fun h => h.resolve_left ?_⟩
      rintro rfl
      exact hkey hother
    | some field =>
      have hkey := mem_keys_of_find? hfield
      have hnew : key ∉ done.map Prod.fst := by
        intro hmem
        have := honce key hkey
        have := List.count_pos_iff.mpr hmem
        rw [List.map_cons, List.count_cons_self] at *
        omega
      refine .known hfield (fun hmem => hnew ((hseen key hkey).mp hmem))
        (hknown.1 done field hfield hnew) (ih hknown.2 (fun other hother => ?_) hlater)
      rw [List.mem_cons, List.map_cons, List.mem_cons, hseen other hother]

/-- Members whose values are all read or refused come to something. -/
theorem exists_fills (state : σ)
    (h : ∀ member ∈ members, ∀ field, fields.find? (·.key == member.1) = some field →
      ∀ state, ∃ outcome, Settles (field.read state) member.2 outcome) :
    ∃ outcome, Fills fields seen state members outcome := by
  induction members generalizing seen state with
  | nil => exact ⟨_, .done⟩
  | cons member members ih =>
    obtain ⟨key, document⟩ := member
    rw [List.forall_mem_cons] at h
    cases hfield : fields.find? (·.key == key) with
    | none =>
      obtain ⟨outcome, hfills⟩ := ih state h.2
      exact ⟨outcome, .unknown hfield hfills⟩
    | some field =>
      by_cases hagain : key ∈ seen
      · exact ⟨_, .again hfield hagain⟩
      obtain ⟨value, hvalue⟩ := h.1 field hfield state
      cases value with
      | error found => exact ⟨_, .inside hfield hagain hvalue⟩
      | ok updated =>
        obtain ⟨outcome, hfills⟩ := ih updated h.2
        exact ⟨outcome, .known hfield hagain hvalue hfills⟩

/-- Whether a field refuses a value in every structure, because it gives a field of its own
twice. -/
def Refuses (field : FieldReader σ) (document : Document) : Prop :=
  ∀ state, ∃ key, Settles (field.read state) document (.error key)

/-- A structure is not read if a known key comes twice, or if a field refuses its value. -/
theorem exists_fills_error (state : σ)
    (hsettles : ∀ member ∈ members, ∀ field, fields.find? (·.key == member.1) = some field →
      Refuses field member.2 ∨
        ∀ state, ∃ updated, Settles (field.read state) member.2 (.ok updated))
    (hseen : seen.Nodup)
    (htwice : (∃ key ∈ keys fields, 2 ≤ seen.count key + (members.map Prod.fst).count key) ∨
      ∃ member ∈ members, ∃ field, fields.find? (·.key == member.1) = some field ∧
        Refuses field member.2) :
    ∃ key, Fills fields seen state members (.error key) := by
  induction members generalizing seen state with
  | nil =>
    rcases htwice with ⟨key, _, hcount⟩ | ⟨_, hmem, _⟩
    · have := List.nodup_iff_count_le_one.mp hseen key
      rw [List.map_nil, List.count_nil] at hcount
      omega
    · exact absurd hmem List.not_mem_nil
  | cons member members ih =>
    obtain ⟨key, document⟩ := member
    rw [List.forall_mem_cons] at hsettles
    cases hfield : fields.find? (·.key == key) with
    | none =>
      have hlater : (∃ key ∈ keys fields, 2 ≤ seen.count key + (members.map Prod.fst).count key) ∨
          ∃ member ∈ members, ∃ field, fields.find? (·.key == member.1) = some field ∧
            Refuses field member.2 := by
        rcases htwice with ⟨other, hother, hcount⟩ | ⟨member, hmem, field, hfound, hrefused⟩
        · have hne : key ≠ other := fun heq => find?_key_eq_none_iff.mp hfield (heq ▸ hother)
          rw [List.map_cons, List.count_cons_of_ne hne] at hcount
          exact .inl ⟨other, hother, hcount⟩
        · rcases List.mem_cons.mp hmem with rfl | hmem
          · cases hfield.symm.trans hfound
          · exact .inr ⟨member, hmem, field, hfound, hrefused⟩
      obtain ⟨found, hfills⟩ := ih state hsettles.2 hseen hlater
      exact ⟨found, .unknown hfield hfills⟩
    | some field =>
      by_cases hagain : key ∈ seen
      · exact ⟨key, .again hfield hagain⟩
      by_cases hrefused : Refuses field document
      · obtain ⟨inner, hinner⟩ := hrefused state
        exact ⟨inner, .inside hfield hagain hinner⟩
      obtain ⟨updated, hupdated⟩ := (hsettles.1 field hfield).resolve_left hrefused state
      have hlater : (∃ other ∈ keys fields,
            2 ≤ (key :: seen).count other + (members.map Prod.fst).count other) ∨
          ∃ member ∈ members, ∃ field, fields.find? (·.key == member.1) = some field ∧
            Refuses field member.2 := by
        rcases htwice with ⟨other, hother, hcount⟩ | ⟨member, hmem, found, hfound, hfoundRefused⟩
        · refine .inl ⟨other, hother, ?_⟩
          simp only [List.map_cons, List.count_cons] at hcount ⊢
          omega
        · rcases List.mem_cons.mp hmem with rfl | hmem
          · cases hfield.symm.trans hfound
            exact absurd hfoundRefused hrefused
          · exact .inr ⟨member, hmem, found, hfound, hfoundRefused⟩
      obtain ⟨found, hfills⟩ := ih updated hsettles.2
        (List.nodup_cons.mpr ⟨hagain, hseen⟩) hlater
      exact ⟨found, .known hfield hagain hupdated hfills⟩

end Members

/-! ### Whole texts -/

/-- What a reader makes of a value that is all of a text. -/
theorem Settles.decode {α : Type} {reader : Reader α} {document : Document}
    {outcome : Except Text α} (h : Settles reader document outcome) {s : Text}
    (hs : IsJsonText document s) :
    match outcome with
    | .ok value => reader.decode s = .ok value
    | .error key =>
      ∃ fault, reader.decode s = .error fault ∧ fault.problem = .duplicateField key := by
  obtain ⟨value, gap, hvalue, hgap, rfl⟩ := hs
  have hend : skipSpaces gap = [] := List.dropWhile_eq_nil_iff.mpr hgap
  have hanswer := h value gap hvalue
  cases outcome with
  | ok result =>
    have hread : reader.read (value ++ gap) = .ok (result, gap) := hanswer
    show Reader.decode _ _ = _
    rw [Reader.decode, hread]
    simp only [hend]
  | error key =>
    obtain ⟨fault, hread, hproblem⟩ := hanswer
    exact ⟨fault, by rw [Reader.decode, hread], hproblem⟩

end StateOverlay.Json
