/-
The block comments of a text in C.

A text in C is read from its start, one character after another.  A block comment opens in code and
nowhere else, so that what a literal or another comment holds opens none, and it closes at the first
star with a slash behind it.  A line that ends in a backslash goes on in the next one; white space
behind the backslash, such as a carriage return, goes with it.

* `Place.next` — where one character leads a reader of C;
* `placeAt` — where the reader stands in front of a line of a text;
* `IsInComment` — a line that begins inside a block comment;
* `placeAt_congr` — the carriage returns at the ends of lines make no difference to a reader;
* `withoutComments` — a text without the block comments that open and close in it.
-/
import StateOverlay.Proofs.Text.Lines

namespace StateOverlay

namespace Comments

/-! ### Reading from the start -/

/-- Where a reader of C stands. -/
inductive Place where
  | code
  /-- Behind a slash in code. -/
  | slash
  | blockComment
  /-- Behind a star in a block comment. -/
  | star
  | lineComment
  /-- In a literal that a quotation mark ends. -/
  | literal (quote : Char)
  /-- Behind a backslash in a literal. -/
  | escape (quote : Char)
deriving DecidableEq

namespace Place

/-- Where a character of code leads. -/
def ofCode (c : Char) : Place :=
  if c = '/' then .slash else if c = '"' ∨ c = '\x27' then .literal c else .code

/-- Where a character leads.  A line feed ends a line comment, and a literal that was not closed. -/
def next : Place → Char → Place
  | .code, c => ofCode c
  | .slash, c => if c = '*' then .blockComment else if c = '/' then .lineComment else ofCode c
  | .blockComment, c => if c = '*' then .star else .blockComment
  | .star, c => if c = '/' then .code else if c = '*' then .star else .blockComment
  | .lineComment, c => if c = '\n' then .code else .lineComment
  | .literal quote, c =>
    if c = quote ∨ c = '\n' then .code else if c = '\\' then .escape quote else .literal quote
  | .escape quote, c => if c = '\n' then .code else .literal quote

/-- Where a line leads.  The backslash at the end of a line that goes on in the next is not read, and
neither is the line feed behind it. -/
def afterLine (place : Place) (line : Text) : Place :=
  let line := Text.trimEnd line
  if line.getLast? = some '\\' then line.dropLast.foldl next place
  else next (line.foldl next place) '\n'

/-- Whether a place is inside a block comment. -/
def inComment : Place → Bool
  | .blockComment | .star => true
  | _ => false

end Place

/-- Where a reader stands in front of a line of a text, the first line being 0; behind the last
line, where the text leads. -/
def placeAt (s : Text) (i : Nat) : Place := ((Text.lines s).take i).foldl Place.afterLine .code

/-- A line of a text begins inside a block comment. -/
def IsInComment (s : Text) (i : Nat) : Prop := (placeAt s i).inComment = true

instance (s : Text) (i : Nat) : Decidable (IsInComment s i) := inferInstanceAs (Decidable (_ = _))

/-- All block comments of a text are closed in it. -/
def CommentsClosed (s : Text) : Prop := ¬ IsInComment s (Text.lines s).length

instance (s : Text) : Decidable (CommentsClosed s) := inferInstanceAs (Decidable (¬ _))

theorem Place.afterLine_dropFinal (place : Place) (line : Text) :
    place.afterLine (Text.dropFinal '\r' line) = place.afterLine line := by
  rw [afterLine, afterLine, trimEnd_dropFinal]

/-- The carriage returns at the ends of lines make no difference to a reader. -/
theorem placeAt_congr {s t : Text} {i : Nat}
    (h : (Text.lines s).take i = ((Text.lines t).take i).map (Text.dropFinal '\r')) :
    placeAt s i = placeAt t i := by
  rw [placeAt, placeAt, h, List.foldl_map]
  simp only [Place.afterLine_dropFinal]

/-! ### Comments that open and close on a line -/

/-- What follows the first place where a block comment closes. -/
def afterClose? : Text → Option Text
  | [] => none
  | c :: rest =>
    match ['*', '/'].isPrefixOf? (c :: rest) with
    | some behind => some behind
    | none => afterClose? rest

theorem length_afterClose? {s rest : Text} (h : afterClose? s = some rest) :
    rest.length ≤ s.length := by
  induction s with
  | nil => cases h
  | cons c s ih =>
    rw [afterClose?] at h
    split at h
    · case h_1 behind hclose =>
      cases h
      exact length_of_isPrefixOf? hclose
    · exact Nat.le_succ_of_le (ih h)

/-- What follows the block comment that a text begins with, if it closes in the text. -/
def afterComment? (s : Text) : Option Text := (['/', '*'].isPrefixOf? s).bind afterClose?

theorem length_afterComment? {s rest : Text} (h : afterComment? s = some rest) :
    rest.length < s.length := by
  obtain ⟨body, hopen, hclose⟩ := Option.bind_eq_some_iff.mp h
  have hbody := isPrefixOf?_eq_some_iff.mp hopen
  have hlength := length_afterClose? hclose
  rw [hbody, List.length_append]
  exact Nat.lt_of_le_of_lt hlength (Nat.lt_add_of_pos_left (by decide))

/-- A text without the block comments that open and close in it.  Literals and line comments are not
looked at: the character that begins the first of them stays, and so does what is in front of it. -/
def withoutComments : Text → Text
  | [] => []
  | c :: rest =>
    match _h : afterComment? (c :: rest) with
    | some behind => withoutComments behind
    | none => c :: withoutComments rest
termination_by s => s.length
decreasing_by
  · exact length_afterComment? _h
  · simp

/-- No comment opens at a character that is no slash. -/
theorem withoutComments_cons {c : Char} (hc : c ≠ '/') (s : Text) :
    withoutComments (c :: s) = c :: withoutComments s := by
  have hnone : afterComment? (c :: s) = none := by
    rw [afterComment?, Option.bind_eq_none_iff]
    intro body hopen
    obtain ⟨rfl, _⟩ := List.cons.inj (isPrefixOf?_eq_some_iff.mp hopen)
    exact absurd rfl hc
  rw [withoutComments]
  split
  · case h_1 behind hsome => cases hnone.symm.trans hsome
  · rfl

/-- White space in front of a text is kept with the comments behind it taken out. -/
theorem withoutComments_blanks_append {margin : Text} (hmargin : ∀ c ∈ margin, isBlank c)
    (s : Text) : withoutComments (margin ++ s) = margin ++ withoutComments s := by
  induction margin with
  | nil => rfl
  | cons c margin ih =>
    obtain ⟨hc, hrest⟩ := List.forall_mem_cons.mp hmargin
    have hslash : c ≠ '/' := fun heq => nomatch heq ▸ hc
    rw [List.cons_append, withoutComments_cons hslash, ih hrest, List.cons_append]

end Comments

end StateOverlay
