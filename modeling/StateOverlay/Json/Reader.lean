/-
Readers of JSON values of a known shape.

A reader takes one value off the front of a text and always leaves less than it found.  A structure
is read either from an object, whose members may come in any order and may be unknown, or from a
list of its fields in their order of declaration; what the text does not give keeps its default.

* `Reader.text`, `Reader.list` — the readers of strings and of lists;
* `Reader.record` — the reader of a structure, from its fields;
* `Reader.decode` — a whole text as one value.
-/
import StateOverlay.Json.Skip

namespace StateOverlay.Json

/-- Takes a value off the front of a text. -/
structure Reader (α : Type) where
  read : Text → Except Fault (α × Text)
  length_lt : ∀ {s value rest}, read s = .ok (value, rest) → rest.length < s.length

/-- How a field of a structure is read: its key, and how its value goes into the structure. -/
structure FieldReader (σ : Type) where
  key : Text
  read : σ → Reader σ

/-- Looks for the next item of a list: whether there is one, and the text from there on. -/
def nextItem (isFirst : Bool) (s : Text) : Except Fault (Bool × Text) :=
  match skipSpaces s with
  | [] => failAt .endInList [] 0
  | c :: rest =>
    if c = ']' then .ok (false, c :: rest)
    else if isFirst then .ok (true, c :: rest)
    else if c = ',' then
      match skipSpaces rest with
      | [] => failAt .endInValue [] 0
      | d :: inside =>
        if d = ']' then failAt .trailingComma (d :: inside) 1 else .ok (true, d :: inside)
    else failAt .expectedListEnd (c :: rest) 1

/-- What follows the end of a list whose last item is read. -/
def listEnd (s : Text) : Except Fault Text :=
  match skipSpaces s with
  | [] => failAt .endInList [] 0
  | ']' :: rest => .ok rest
  | ',' :: rest =>
    match skipSpaces rest with
    | ']' :: inside => failAt .trailingComma (']' :: inside) 1
    | inside => failAt .trailingText inside 1
  | rest => failAt .trailingText rest 1

/-- Looks for the next key of an object: the text behind its opening quote, or the closing brace. -/
def nextKey (isFirst : Bool) (s : Text) : Except Fault (Bool × Text) :=
  match skipSpaces s with
  | [] => failAt .endInObject [] 0
  | c :: rest =>
    if c = '}' then .ok (false, c :: rest)
    else if isFirst then
      if c = '"' then .ok (true, rest) else failAt .keyNotString (c :: rest) 1
    else if c = ',' then
      match skipSpaces rest with
      | [] => failAt .endInValue [] 0
      | d :: inside =>
        if d = '"' then .ok (true, inside)
        else if d = '}' then failAt .trailingComma (d :: inside) 1
        else failAt .keyNotString (d :: inside) 1
    else failAt .expectedObjectEnd (c :: rest) 1

/-- What follows the colon behind a key. -/
def colon (s : Text) : Except Fault Text :=
  match skipSpaces s with
  | [] => failAt .endInObject [] 0
  | ':' :: rest => .ok rest
  | rest => failAt .expectedColon rest 1

/-- What follows the closing brace of an object, if the text begins with it. -/
def pastBrace (s : Text) : Text :=
  match skipSpaces s with
  | '}' :: rest => rest
  | rest => rest

/-- Looking for an item makes no text longer. -/
theorem length_of_nextItem {isFirst found : Bool} {s rest : Text}
    (h : nextItem isFirst s = .ok (found, rest)) : rest.length ≤ s.length := by
  simp only [nextItem] at h
  split at h
  · cases h
  · next c tail htail =>
    have htail := length_of_skipSpaces htail
    repeat' split at h
    · cases h
      exact htail
    · cases h
      exact htail
    · cases h
    · cases h
    · next hinside _ =>
      have hinside := length_of_skipSpaces hinside
      cases h
      simp only [List.length_cons] at *
      omega
    · cases h

/-- The end of a list leaves less. -/
theorem length_of_listEnd {s rest : Text} (h : listEnd s = .ok rest) :
    rest.length < s.length := by
  simp only [listEnd] at h
  split at h
  · cases h
  · next htail =>
    have htail := length_of_skipSpaces htail
    cases h
    exact htail
  · split at h <;> cases h
  · cases h

/-- A key that is there leaves less, because its quote is read. -/
theorem length_of_nextKey {isFirst : Bool} {s rest : Text}
    (h : nextKey isFirst s = .ok (true, rest)) : rest.length < s.length := by
  simp only [nextKey] at h
  split at h
  · cases h
  · next c tail htail =>
    have htail := length_of_skipSpaces htail
    repeat' split at h
    · cases h
    · cases h
      exact htail
    · cases h
    · cases h
    · next hinside _ =>
      have hinside := length_of_skipSpaces hinside
      cases h
      simp only [List.length_cons] at *
      omega
    · cases h
    · cases h
    · cases h

/-- A key that is not there makes no text longer. -/
theorem length_of_nextKey_false {isFirst : Bool} {s rest : Text}
    (h : nextKey isFirst s = .ok (false, rest)) : rest.length ≤ s.length := by
  simp only [nextKey] at h
  split at h
  · cases h
  · next c tail htail =>
    have htail := length_of_skipSpaces htail
    repeat' split at h
    -- only the closing brace answers that there is no key
    · cases h
      exact htail
    all_goals cases h

/-- A colon leaves less. -/
theorem length_of_colon {s rest : Text} (h : colon s = .ok rest) : rest.length < s.length := by
  simp only [colon] at h
  split at h
  · cases h
  · next htail =>
    have htail := length_of_skipSpaces htail
    cases h
    exact htail
  · cases h

/-- Reads the items of a list that are left. -/
def items {α : Type} (item : Reader α) (isFirst : Bool) (s : Text) : Except Fault (List α × Text) :=
  match _hnext : nextItem isFirst s with
  | .error fault => .error fault
  | .ok (false, rest) => .ok ([], rest)
  | .ok (true, rest) =>
    match _hitem : item.read rest with
    | .error fault => .error fault
    | .ok (value, rest) =>
      (items item false rest).map fun (values, rest) => (value :: values, rest)
termination_by s.length
decreasing_by
  exact Nat.lt_of_lt_of_le (item.length_lt _hitem) (length_of_nextItem _hnext)

/-- Reads the fields of a structure from the items of a list. -/
def positional {σ : Type} (fields : List (FieldReader σ)) (isFirst : Bool) (state : σ)
    (s : Text) : Except Fault (σ × Text) :=
  match fields with
  | [] => .ok (state, s)
  | field :: fields =>
    match nextItem isFirst s with
    | .error fault => .error fault
    | .ok (false, rest) => .ok (state, rest)
    | .ok (true, rest) =>
      match (field.read state).read rest with
      | .error fault => .error fault
      | .ok (state, rest) => positional fields false state rest

/-- Reads the fields of a structure from the members of an object.  The keys read so far tell a
field that is given twice. -/
def members {σ : Type} (fields : List (FieldReader σ)) (seen : List Text) (isFirst : Bool)
    (state : σ) (s : Text) : Except Fault (σ × Text) :=
  match _hnext : nextKey isFirst s with
  | .error fault => .error fault
  | .ok (false, rest) => .ok (state, rest)
  | .ok (true, rest) =>
    match _hkey : string rest with
    | .error fault => .error fault
    | .ok (key, rest) =>
      match fields.find? (·.key == key) with
      | none =>
        match _hcolon : colon rest with
        | .error fault => .error fault
        | .ok rest =>
          match _hvalue : skipValue [] rest with
          | .error fault => .error fault
          | .ok rest => members fields seen false state rest
      | some field =>
        if seen.contains key then failAt (.duplicateField key) (pastBrace rest) 0
        else
          match _hcolon : colon rest with
          | .error fault => .error fault
          | .ok rest =>
            match _hvalue : (field.read state).read rest with
            | .error fault => .error fault
            | .ok (updated, rest) => members fields (key :: seen) false updated rest
termination_by s.length
decreasing_by
  · have := length_of_nextKey _hnext
    have := length_of_string _hkey
    have := length_of_colon _hcolon
    have := length_of_skipValue _hvalue
    omega
  · have := length_of_nextKey _hnext
    have := length_of_string _hkey
    have := length_of_colon _hcolon
    have := (field.read state).length_lt _hvalue
    omega

/-- The items of a list make no text longer. -/
theorem length_of_items {α : Type} {item : Reader α} {isFirst : Bool} {s rest : Text}
    {values : List α} (h : items item isFirst s = .ok (values, rest)) :
    rest.length ≤ s.length := by
  fun_induction items item isFirst s generalizing values rest with
  | case1 => cases h
  | case2 isFirst s after hnext =>
    cases h
    exact length_of_nextItem hnext
  | case3 => cases h
  | case4 isFirst s after hnext value after' hitem ih =>
    obtain ⟨⟨tail, final⟩, hitems, heq⟩ := exists_of_map_eq_ok h
    obtain ⟨-, rfl⟩ := Prod.mk.inj heq
    have := ih hitems
    have := item.length_lt hitem
    have := length_of_nextItem hnext
    omega

/-- The fields of a structure make no text longer. -/
theorem length_of_positional {σ : Type} {fields : List (FieldReader σ)} {isFirst : Bool}
    {state result : σ} {s rest : Text}
    (h : positional fields isFirst state s = .ok (result, rest)) : rest.length ≤ s.length := by
  induction fields generalizing isFirst state s with
  | nil =>
    cases h
    exact Nat.le_refl _
  | cons field fields ih =>
    simp only [positional] at h
    split at h
    · cases h
    · next hnext =>
      cases h
      exact length_of_nextItem hnext
    · next after hnext =>
      split at h
      · cases h
      · next hvalue =>
        have := ih h
        have := (field.read state).length_lt hvalue
        have := length_of_nextItem hnext
        omega

/-- The members of an object make no text longer. -/
theorem length_of_members {σ : Type} {fields : List (FieldReader σ)} {seen : List Text}
    {isFirst : Bool} {state result : σ} {s rest : Text}
    (h : members fields seen isFirst state s = .ok (result, rest)) : rest.length ≤ s.length := by
  fun_induction members fields seen isFirst state s with
  | case1 => cases h
  | case2 seen isFirst state s after hnext =>
    cases h
    exact length_of_nextKey_false hnext
  | case3 => cases h
  | case4 => cases h
  | case5 => cases h
  | case6 seen isFirst state s inside hnext key behind hkey _ value hcolon after hvalue ih =>
    have := ih h
    have := length_of_skipValue hvalue
    have := length_of_colon hcolon
    have := length_of_string hkey
    have := length_of_nextKey hnext
    omega
  | case7 => cases h
  | case8 => cases h
  | case9 => cases h
  | case10 seen isFirst state s inside hnext key behind hkey field _ _ value hcolon updated after
      hvalue ih =>
    have := ih h
    have := (field.read state).length_lt hvalue
    have := length_of_colon hcolon
    have := length_of_string hkey
    have := length_of_nextKey hnext
    omega

/-- Reads a string. -/
def readText (s : Text) : Except Fault (Text × Text) :=
  match skipSpaces s with
  | [] => failAt .endInValue [] 0
  | '"' :: rest => string rest
  | found => .error (misfit "a string".toList found)

/-- Reads a list. -/
def readList {α : Type} (item : Reader α) (s : Text) : Except Fault (List α × Text) :=
  match skipSpaces s with
  | [] => failAt .endInValue [] 0
  | '[' :: rest =>
    match items item true rest with
    | .error fault => .error fault
    | .ok (values, rest) => (listEnd rest).map fun rest => (values, rest)
  | found => .error (misfit "a sequence".toList found)

/-- Reads a structure, given what messages call it, its fields and its defaults. -/
def readRecord {σ : Type} (title : Text) (fields : List (FieldReader σ)) (default : σ)
    (s : Text) : Except Fault (σ × Text) :=
  match skipSpaces s with
  | [] => failAt .endInValue [] 0
  | '[' :: rest =>
    match positional fields true default rest with
    | .error fault => .error fault
    | .ok (state, rest) => (listEnd rest).map fun rest => (state, rest)
  | '{' :: rest =>
    match members fields [] true default rest with
    | .error fault => .error fault
    | .ok (state, rest) => .ok (state, pastBrace rest)
  | found => .error (misfit title found)

/-- Passing a brace makes no text longer. -/
theorem length_pastBrace (s : Text) : (pastBrace s).length ≤ s.length := by
  simp only [pastBrace]
  split
  · next hrest =>
    have := length_of_skipSpaces hrest
    simp only [List.length_cons] at this
    omega
  · next hrest => exact length_skipSpaces s

namespace Reader

/-- The reader of strings. -/
protected def text : Reader Text where
  read := readText
  length_lt := by
    intro s value rest h
    simp only [readText] at h
    split at h
    · cases h
    · next tail htail =>
      have := length_of_skipSpaces htail
      have := length_of_string h
      simp only [List.length_cons] at *
      omega
    · cases h

/-- The reader of lists. -/
protected def list {α : Type} (item : Reader α) : Reader (List α) where
  read := readList item
  length_lt := by
    intro s value rest h
    simp only [readList] at h
    split at h
    · cases h
    · next tail htail =>
      have := length_of_skipSpaces htail
      split at h
      · cases h
      · next values after hitems =>
        have := length_of_items hitems
        obtain ⟨final, hend, heq⟩ := exists_of_map_eq_ok h
        obtain ⟨-, rfl⟩ := Prod.mk.inj heq
        have := length_of_listEnd hend
        simp only [List.length_cons] at *
        omega
    · cases h

/-- The reader of a structure. -/
protected def record {σ : Type} (title : Text) (fields : List (FieldReader σ)) (default : σ) :
    Reader σ where
  read := readRecord title fields default
  length_lt := by
    intro s value rest h
    simp only [readRecord] at h
    split at h
    · cases h
    · next tail htail =>
      have := length_of_skipSpaces htail
      split at h
      · cases h
      · next state after hfields =>
        have := length_of_positional hfields
        obtain ⟨final, hend, heq⟩ := exists_of_map_eq_ok h
        obtain ⟨-, rfl⟩ := Prod.mk.inj heq
        have := length_of_listEnd hend
        simp only [List.length_cons] at *
        omega
    · next tail htail =>
      have := length_of_skipSpaces htail
      split at h
      · cases h
      · next state after hfields =>
        have := length_of_members hfields
        cases h
        have := length_pastBrace after
        simp only [List.length_cons] at *
        omega
    · cases h

/-- A reader whose values are turned into others. -/
protected def map {α β : Type} (f : α → β) (reader : Reader α) : Reader β where
  read s := (reader.read s).map fun (value, rest) => (f value, rest)
  length_lt := by
    intro s value rest h
    obtain ⟨⟨found, after⟩, hread, heq⟩ := exists_of_map_eq_ok h
    obtain ⟨-, rfl⟩ := Prod.mk.inj heq
    exact reader.length_lt hread

/-- Reads a whole text as one value. -/
def decode {α : Type} (reader : Reader α) (s : Text) : Except Fault α :=
  match reader.read s with
  | .error fault => .error fault
  | .ok (value, rest) =>
    match skipSpaces rest with
    | [] => .ok value
    | unread => failAt .trailingText unread 1

end Reader

/-- A field that holds a string. -/
def FieldReader.text {σ : Type} (key : String) (store : σ → Text → σ) : FieldReader σ :=
  { key := key.toList, read := fun state => Reader.text.map (store state) }

end StateOverlay.Json
