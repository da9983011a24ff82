/-
The grammar of JSON texts.

A value can be written in many ways.  White space may stand in front of any token, and a character
of a string may be written as it is, by a letter, or by its code in UTF-16:

* `Document` — values, with numbers as they are written;
* `SpellsChar`, `SpellsText` — the ways to write a character and a string;
* `IsNumeral` — the numbers;
* `Writes`, `IsJsonText` — the ways to write a value;
* `Writes.begins` — a value can be told from its first character behind white space.

Design notes: `Writes` is one relation over `Part`, the values and the parts of lists and objects,
so that what holds of all of them is one induction.
-/
import Mathlib.Data.List.DropRight
import StateOverlay.Json.Scalar

namespace StateOverlay.Json

/-- A JSON value.  A number is kept as it is written. -/
inductive Document where
  | null
  | boolean (value : Bool)
  | number (numeral : Text)
  | string (value : Text)
  | list (items : List Document)
  | object (members : List (Text × Document))

/-! ### Strings -/

/-- A hexadecimal digit, as a small letter or a capital. -/
def IsHexDigit (value : Fin 16) (c : Char) : Prop :=
  c = Nat.digitChar value ∨ c = (Nat.digitChar value).toUpper

/-- The ways to write a code unit in four digits. -/
inductive SpellsUnit : Nat → Text → Prop where
  | digits {a b c d : Fin 16} {w x y z : Char} (ha : IsHexDigit a w) (hb : IsHexDigit b x)
      (hc : IsHexDigit c y) (hd : IsHexDigit d z) :
      SpellsUnit (((a * 16 + b) * 16 + c) * 16 + d) [w, x, y, z]

/-- The letters that stand for characters behind a backslash. -/
def shortEscapes : List (Char × Char) :=
  [('"', '"'), ('\\', '\\'), ('/', '/'), ('b', '\x08'), ('f', '\x0c'), ('n', '\n'), ('r', '\r'),
    ('t', '\t')]

/-- The ways to write a character of a string. -/
inductive SpellsChar : Char → Text → Prop where
  | plain {c : Char} (hquote : c ≠ '"') (hbackslash : c ≠ '\\') (hprinted : 0x20 ≤ c.toNat) :
      SpellsChar c [c]
  | letter {c letter : Char} (h : (letter, c) ∈ shortEscapes) : SpellsChar c ['\\', letter]
  | code {c : Char} {digits : Text} (h : SpellsUnit c.toNat digits) :
      SpellsChar c ('\\' :: 'u' :: digits)
  /-- A character that needs two code units: ten bits of its code above 2^16 in each. -/
  | pair {c : Char} {high low : Nat} {first second : Text} (hhigh : high < 0x400)
      (hlow : low < 0x400) (hc : c.toNat = 0x10000 + high * 0x400 + low)
      (hfirst : SpellsUnit (0xD800 + high) first) (hsecond : SpellsUnit (0xDC00 + low) second) :
      SpellsChar c ('\\' :: 'u' :: (first ++ '\\' :: 'u' :: second))

/-- The ways to write a text between quotes. -/
inductive SpellsText : Text → Text → Prop where
  | nil : SpellsText [] []
  | cons {c : Char} {s body rest : Text} (hc : SpellsChar c body) (hs : SpellsText s rest) :
      SpellsText (c :: s) (body ++ rest)

/-- A text without quotes, backslashes and control characters spells itself. -/
theorem spellsText_self {s : Text} (h : ∀ c ∈ s, c ≠ '"' ∧ c ≠ '\\' ∧ 0x20 ≤ c.toNat) :
    SpellsText s s := by
  induction s with
  | nil => exact .nil
  | cons c s ih =>
    rw [List.forall_mem_cons] at h
    obtain ⟨⟨hquote, hbackslash, hprinted⟩, hs⟩ := h
    exact .cons (.plain hquote hbackslash hprinted) (ih hs)

/-! ### Numbers -/

/-- One digit or more. -/
def IsDigits (s : Text) : Prop := s ≠ [] ∧ ∀ c ∈ s, c.isDigit = true

/-- The digits in front of the point: a zero stands alone. -/
def IsWhole (s : Text) : Prop := s = ['0'] ∨ IsDigits s ∧ s.head? ≠ some '0'

/-- The point and the digits behind it, or nothing. -/
def IsFraction (s : Text) : Prop := s = [] ∨ ∃ digits, IsDigits digits ∧ s = '.' :: digits

/-- The exponent, or nothing. -/
def IsExponent (s : Text) : Prop :=
  s = [] ∨ ∃ letter sign digits, letter ∈ ['e', 'E'] ∧ sign ∈ [[], ['+'], ['-']] ∧
    IsDigits digits ∧ s = letter :: (sign ++ digits)

/-- A number as it is written. -/
def IsNumeral (s : Text) : Prop :=
  ∃ sign whole fraction exponent, sign ∈ [[], ['-']] ∧ IsWhole whole ∧ IsFraction fraction ∧
    IsExponent exponent ∧ s = sign ++ (whole ++ (fraction ++ exponent))

/-! ### Values -/

/-- A token behind white space. -/
def Spaced (token s : Text) : Prop := ∃ gap, (∀ c ∈ gap, isSpace c = true) ∧ s = gap ++ token

/-- A string as a token. -/
def quoted (body : Text) : Text := '"' :: (body ++ ['"'])

/-- The values, and the parts that lists and objects are made of. -/
inductive Part where
  | value (document : Document)
  /-- What follows an item of a list: the other items, each behind a comma, and the bracket. -/
  | items (documents : List Document)
  | member (key : Text) (document : Document)
  /-- What follows a member of an object: the other members, each behind a comma, and the brace. -/
  | members (members : List (Text × Document))

/-- The ways to write a part. -/
inductive Writes : Part → Text → Prop where
  | null {s : Text} (h : Spaced "null".toList s) : Writes (.value .null) s
  | isFalse {s : Text} (h : Spaced "false".toList s) : Writes (.value (.boolean false)) s
  | isTrue {s : Text} (h : Spaced "true".toList s) : Writes (.value (.boolean true)) s
  | number {numeral s : Text} (hnumeral : IsNumeral numeral) (h : Spaced numeral s) :
      Writes (.value (.number numeral)) s
  | string {text body s : Text} (hbody : SpellsText text body) (h : Spaced (quoted body) s) :
      Writes (.value (.string text)) s
  | emptyList {s t : Text} (hopen : Spaced ['['] s) (hclose : Spaced [']'] t) :
      Writes (.value (.list [])) (s ++ t)
  | list {document : Document} {documents : List Document} {s t u : Text} (hopen : Spaced ['['] s)
      (hfirst : Writes (.value document) t) (hrest : Writes (.items documents) u) :
      Writes (.value (.list (document :: documents))) (s ++ (t ++ u))
  | endList {s : Text} (hclose : Spaced [']'] s) : Writes (.items []) s
  | nextItem {document : Document} {documents : List Document} {s t u : Text}
      (hcomma : Spaced [','] s) (hnext : Writes (.value document) t)
      (hrest : Writes (.items documents) u) :
      Writes (.items (document :: documents)) (s ++ (t ++ u))
  | emptyObject {s t : Text} (hopen : Spaced ['{'] s) (hclose : Spaced ['}'] t) :
      Writes (.value (.object [])) (s ++ t)
  | object {key : Text} {document : Document} {members : List (Text × Document)} {s t u : Text}
      (hopen : Spaced ['{'] s) (hfirst : Writes (.member key document) t)
      (hrest : Writes (.members members) u) :
      Writes (.value (.object ((key, document) :: members))) (s ++ (t ++ u))
  | endObject {s : Text} (hclose : Spaced ['}'] s) : Writes (.members []) s
  | nextMember {key : Text} {document : Document} {members : List (Text × Document)}
      {s t u : Text} (hcomma : Spaced [','] s) (hnext : Writes (.member key document) t)
      (hrest : Writes (.members members) u) :
      Writes (.members ((key, document) :: members)) (s ++ (t ++ u))
  | member {key body : Text} {document : Document} {s t u : Text} (hbody : SpellsText key body)
      (hkey : Spaced (quoted body) s) (hcolon : Spaced [':'] t)
      (hvalue : Writes (.value document) u) : Writes (.member key document) (s ++ (t ++ u))

/-- A text that holds one value and nothing else. -/
def IsJsonText (document : Document) (s : Text) : Prop :=
  ∃ value gap, Writes (.value document) value ∧ (∀ c ∈ gap, isSpace c = true) ∧ s = value ++ gap

/-! ### First characters -/

/-- What follows white space begins where the white space ends. -/
theorem skipSpaces_gap_append {gap : Text} (h : ∀ c ∈ gap, isSpace c = true) (s : Text) :
    skipSpaces (gap ++ s) = skipSpaces s := List.dropWhile_append_of_pos h

theorem skipSpaces_cons {c : Char} (hc : isSpace c = false) (s : Text) :
    skipSpaces (c :: s) = c :: s := List.dropWhile_cons_of_neg (by simp [hc])

theorem skipSpaces_skipSpaces (s : Text) : skipSpaces (skipSpaces s) = skipSpaces s :=
  List.dropWhile_idempotent isSpace s

/-- A token is what is found behind the white space. -/
theorem Spaced.skipSpaces_append {c : Char} {token s : Text} (h : Spaced (c :: token) s)
    (hc : isSpace c = false) (rest : Text) : skipSpaces (s ++ rest) = c :: (token ++ rest) := by
  obtain ⟨gap, hgap, rfl⟩ := h
  rw [List.append_assoc, skipSpaces_gap_append hgap, List.cons_append, skipSpaces_cons hc]

/-- The kinds of values, by how they begin. -/
inductive Kind where
  | null
  | boolean (value : Bool)
  | number
  | string
  | list
  | object

/-- The kind of a value that begins with a character. -/
def Kind.of? (c : Char) : Option Kind :=
  if c = 'n' then some .null
  else if c = 'f' then some (.boolean false)
  else if c = 't' then some (.boolean true)
  else if c = '"' then some .string
  else if c = '[' then some .list
  else if c = '{' then some .object
  else if c = '-' ∨ c.isDigit then some .number
  else none

def Document.kind : Document → Kind
  | .null => .null
  | .boolean value => .boolean value
  | .number _ => .number
  | .string _ => .string
  | .list _ => .list
  | .object _ => .object

theorem IsDigits.exists_cons {s : Text} (h : IsDigits s) :
    ∃ c rest, s = c :: rest ∧ c.isDigit = true ∧ ∀ d ∈ rest, d.isDigit = true := by
  obtain ⟨c, rest, rfl⟩ := List.exists_cons_of_ne_nil h.1
  exact ⟨c, rest, rfl, List.forall_mem_cons.mp h.2⟩

theorem IsWhole.isDigits {s : Text} (h : IsWhole s) : IsDigits s := by
  rcases h with rfl | ⟨hdigits, _⟩
  · exact ⟨List.cons_ne_nil _ _, by decide⟩
  · exact hdigits

/-- A number begins with its sign or a digit. -/
theorem IsNumeral.exists_cons {s : Text} (h : IsNumeral s) :
    ∃ c rest, s = c :: rest ∧ (c = '-' ∨ c.isDigit = true) := by
  obtain ⟨sign, whole, fraction, exponent, hsign, hwhole, _, _, rfl⟩ := h
  obtain ⟨c, rest, rfl, hc, _⟩ := hwhole.isDigits.exists_cons
  simp only [List.mem_cons, List.not_mem_nil, or_false] at hsign
  rcases hsign with rfl | rfl
  · exact ⟨c, _, rfl, .inr hc⟩
  · exact ⟨'-', _, rfl, .inl rfl⟩

/-- A number begins like no other value, and not with white space. -/
theorem Kind.of?_number {c : Char} (h : c = '-' ∨ c.isDigit = true) :
    Kind.of? c = some .number ∧ isSpace c = false := by
  rcases h with rfl | h
  · exact ⟨rfl, by decide⟩
  · have hne : ∀ d : Char, d.isDigit = false → c ≠ d := by
      rintro d hd rfl
      cases h.symm.trans hd
    constructor
    · rw [Kind.of?, if_neg (hne _ (by decide)), if_neg (hne _ (by decide)),
        if_neg (hne _ (by decide)), if_neg (hne _ (by decide)), if_neg (hne _ (by decide)),
        if_neg (hne _ (by decide)), if_pos (.inr h)]
    · simp [isSpace, hne]

theorem spaced_self (token : Text) : Spaced token token := ⟨[], List.forall_mem_nil _, rfl⟩

/-- Behind white space stands the same value without it, and its first character tells its kind. -/
theorem Writes.begins {document : Document} {s : Text} (h : Writes (.value document) s) :
    ∃ c tail, Kind.of? c = some document.kind ∧ Writes (.value document) (c :: tail) ∧
      ∀ rest, skipSpaces (s ++ rest) = c :: (tail ++ rest) := by
  cases h with
  | null h => exact ⟨_, _, rfl, .null (spaced_self _), h.skipSpaces_append (by decide)⟩
  | isFalse h => exact ⟨_, _, rfl, .isFalse (spaced_self _), h.skipSpaces_append (by decide)⟩
  | isTrue h => exact ⟨_, _, rfl, .isTrue (spaced_self _), h.skipSpaces_append (by decide)⟩
  | number hnumeral h =>
    obtain ⟨c, tail, rfl, hc⟩ := hnumeral.exists_cons
    exact ⟨c, tail, (Kind.of?_number hc).1, .number hnumeral (spaced_self _),
      h.skipSpaces_append (Kind.of?_number hc).2⟩
  | string hbody h =>
    exact ⟨_, _, rfl, .string hbody (spaced_self _), h.skipSpaces_append (by decide)⟩
  | emptyList hopen hclose =>
    refine ⟨_, _, rfl, .emptyList (spaced_self _) hclose, fun rest => ?_⟩
    rw [List.append_assoc]
    exact hopen.skipSpaces_append (by decide) _
  | list hopen hfirst hrest =>
    refine ⟨_, _, rfl, .list (spaced_self _) hfirst hrest, fun rest => ?_⟩
    rw [List.append_assoc]
    exact hopen.skipSpaces_append (by decide) _
  | emptyObject hopen hclose =>
    refine ⟨_, _, rfl, .emptyObject (spaced_self _) hclose, fun rest => ?_⟩
    rw [List.append_assoc]
    exact hopen.skipSpaces_append (by decide) _
  | object hopen hfirst hrest =>
    refine ⟨_, _, rfl, .object (spaced_self _) hfirst hrest, fun rest => ?_⟩
    rw [List.append_assoc]
    exact hopen.skipSpaces_append (by decide) _

/-- A member begins with the quote of its key. -/
theorem Writes.begins_member {key : Text} {document : Document} {s : Text}
    (h : Writes (.member key document) s) :
    ∃ tail, ∀ rest, skipSpaces (s ++ rest) = '"' :: (tail ++ rest) := by
  cases h with
  | @member _ body _ s t u hbody hkey hcolon hvalue =>
    refine ⟨body ++ ['"'] ++ (t ++ u), fun rest => ?_⟩
    rw [List.append_assoc, hkey.skipSpaces_append (by decide)]
    simp only [List.append_assoc]

end StateOverlay.Json
