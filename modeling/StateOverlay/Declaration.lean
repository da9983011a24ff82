/-
The narrow grammar of the declarations in a generated header.

    declaration = [qualifier] type and declarator {attribute} ["=" initializer] ";"
    attribute   = "__attribute__" "((" body "))"
    record      = qualifier tag name "=" "{" values "}"

Each rule is a function from a text to what is left of it, or to the part it names:

* `record?` — the leftmost record initializer of a text;
* `declarator` — a declaration without qualifier, attributes and initializer;
* `trailingName?` — the name at the end of a declarator, with one array suffix at most;
* `splitValues` — the values between the braces of a record.

Design notes: qualifier and tag are any texts, blank or empty ones too, so a run of white space
before the tag may have to give some of itself to the tag.  All other runs end where the next
part begins, because no word character is blank and neither is a delimiter.
-/
import StateOverlay.Text.Blank
import StateOverlay.Text.Word

namespace StateOverlay.Declaration

/-- Splits off the name and the brace contents of `name = {contents}`. -/
def bracedValues? (s : Text) : Option (Text × Text) := do
  let (name, rest) ← Text.name? s
  let rest ← ['='].isPrefixOf? (Text.trimStart rest)
  let rest ← ['{'].isPrefixOf? (Text.trimStart rest)
  match rest.dropWhile (· != '}') with
  | [] => none
  | _ :: _ => some (name, rest.takeWhile (· != '}'))

/-- The record initializer that a text begins with: its name and its brace contents. -/
def recordAt? (qualifier tag s : Text) : Option (Text × Text) := do
  let rest ← qualifier.isPrefixOf? s
  -- the tag may begin with white space of its own, so every length of the run is tried
  (Text.afterBlanks rest).findSome? fun rest => do
    let rest ← tag.isPrefixOf? rest
    (Text.afterBlanks rest).findSome? bracedValues?

/-- The leftmost record initializer of a text. -/
def record? (qualifier tag s : Text) : Option (Text × Text) :=
  (search (recordAt? qualifier tag) s).map Prod.snd

/-- What follows the qualifier and the white space after it, if a text begins so. -/
def afterQualifier? (qualifier s : Text) : Option Text :=
  match qualifier.isPrefixOf? s with
  | some (c :: rest) => if isBlank c then some (Text.trimStart rest) else none
  | _ => none

/-- Whether a text begins with the qualifier and white space. -/
def isQualified (qualifier s : Text) : Bool := (afterQualifier? qualifier s).isSome

/-- What follows the two parentheses that close an attribute.  The parentheses inside its body may
form groups, but a group holds no other: `inGroup` says whether one is open. -/
def afterBody? : Bool → Text → Option Text
  | _, [] => none
  | inGroup, c :: rest =>
    if c = '(' then (if inGroup then none else afterBody? true rest)
    else if c = ')' then (if inGroup then afterBody? false rest else [')'].isPrefixOf? rest)
    else afterBody? inGroup rest

/-- The word that begins an attribute. -/
def attributeWord : Text := "__attribute__".toList

/-- What follows the attribute that a text begins with. -/
def afterAttribute? (s : Text) : Option Text := do
  let rest ← attributeWord.isPrefixOf? s
  let rest ← ['(', '('].isPrefixOf? (Text.trimStart rest)
  afterBody? false rest

/-- The body of an attribute ends in parentheses, so what follows is shorter. -/
theorem length_afterBody? {inGroup : Bool} {s rest : Text}
    (h : afterBody? inGroup s = some rest) : rest.length < s.length := by
  induction s generalizing inGroup with
  | nil => cases h
  | cons c s ih =>
    simp only [afterBody?] at h
    repeat' split at h
    · cases h
    · exact Nat.lt_succ_of_lt (ih h)
    · exact Nat.lt_succ_of_lt (ih h)
    · exact Nat.lt_succ_of_le (length_of_isPrefixOf? h)
    · exact Nat.lt_succ_of_lt (ih h)

/-- What follows an attribute is shorter than the text that begins with it. -/
theorem length_afterAttribute? {s rest : Text} (h : afterAttribute? s = some rest) :
    rest.length < s.length := by
  simp only [afterAttribute?, Option.bind_eq_bind, Option.bind_eq_some_iff] at h
  -- word, white space, parentheses and body each leave no more than they found
  obtain ⟨t, ht, u, hu, hrest⟩ := h
  calc rest.length < u.length := length_afterBody? hrest
    _ ≤ (Text.trimStart t).length := length_of_isPrefixOf? hu
    _ ≤ t.length := (List.dropWhile_suffix _).length_le
    _ ≤ s.length := length_of_isPrefixOf? ht

/-- A text without its attributes. -/
def removeAttributes : Text → Text
  | [] => []
  | c :: rest =>
    match _h : afterAttribute? (c :: rest) with
    | some after => removeAttributes after
    | none => c :: removeAttributes rest
termination_by s => s.length
decreasing_by
  · exact length_afterAttribute? _h
  · simp

/-- The part of a declaration that names what it declares: without the qualifier, the attributes,
the initializer and outer white space. -/
def declarator (qualifier declaration : Text) : Text :=
  let unqualified := (afterQualifier? qualifier declaration).getD declaration
  Text.trim ((removeAttributes unqualified).takeWhile (· != '='))

/-- Whether a text is one array suffix, after white space if any. -/
def isArraySuffix (s : Text) : Bool :=
  match Text.trimStart s with
  | '[' :: rest => rest.dropWhile (· != ']') == [']']
  | _ => false

/-- The name a text begins with, if nothing but an array suffix follows it. -/
def trailingNameAt? (s : Text) : Option Text := do
  let (name, rest) ← Text.name? s
  if rest.isEmpty || isArraySuffix rest then some name else none

/-- The name that a text ends with, an array suffix aside. -/
def trailingName? (s : Text) : Option Text := (search trailingNameAt? s).map Prod.snd

/-- A line up to the first opening of a block comment. -/
def stripComment (line : Text) : Text := Text.upTo ['/', '*'] line

/-- The values of a record, at most three: the pieces between commas, trimmed.  Empty pieces at
the end are left out, an empty piece before others keeps its place. -/
def splitValues (contents : Text) : List Text :=
  let pieces := (contents.splitOn ',').map Text.trim
  ((pieces.reverse.dropWhile List.isEmpty).reverse).take 3

end StateOverlay.Declaration
