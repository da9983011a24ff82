/-
Patterns that a field's value is compared with.

A filter may name a value for a field as a regular expression.  Such a condition never decides on
an event, so all that matters here is whether the text is an expression at all: its groups and
classes are closed, its repetitions repeat something, and its escapes are known.
-/
import StateOverlay.Text.Basic

namespace StateOverlay.Pattern

/-- Whether a text begins with so many hexadecimal digits. -/
def hasHex (count : Nat) (s : Text) : Bool :=
  (s.take count).length == count &&
    (s.take count).all fun c => c.isDigit || "abcdefABCDEF".toList.contains c

/-- Whether a backslash, a character and what follows them are an escape that stands for characters.
What belongs to the escape may be read again as ordinary characters. -/
def isEscape (c : Char) (rest : Text) : Bool :=
  match c with
  | 'x' => hasHex 2 rest
  | 'u' => hasHex 4 rest
  | 'U' => hasHex 8 rest
  | 'p' | 'P' => rest.head?.any "CLMNPSZclmnpsz".toList.contains
  | c =>
    if c.isAlphanum then "aftnrvdDsSwW".toList.contains c
    else c.toNat < 0x80 && c != '<' && c != '>'

/-- Whether a character behind a backslash stands for a place between characters. -/
def isPlace (c : Char) : Bool := "AzbB<>".toList.contains c

/-- Whether a text may follow the question mark that opens a special group: it names the group, or
sets modes. -/
def opensGroup : Text → Bool
  | 'P' :: '<' :: c :: _ => c.isAlpha || c == '_'
  | '<' :: c :: _ => c.isAlpha || c == '_'
  | c :: _ => ":imsUuxR-".toList.contains c
  | [] => false

mutual

/-- Whether a text ends the open groups of an expression and does not break its grammar;
`repeatable` says whether a repetition may follow. -/
def isRest (groups : Nat) (repeatable : Bool) : Text → Bool
  | [] => groups == 0
  | ['\\'] => false
  | '\\' :: c :: rest => (isEscape c rest || isPlace c) && isRest groups true rest
  | '(' :: '?' :: rest => opensGroup rest && isRest (groups + 1) true rest
  | '[' :: '^' :: ']' :: rest => isClassRest groups 0 rest
  | '[' :: '^' :: rest => isClassRest groups 0 rest
  | '[' :: ']' :: rest => isClassRest groups 0 rest
  | c :: rest =>
    if c = '(' then isRest (groups + 1) false rest
    else if c = ')' then decide (0 < groups) && isRest (groups - 1) true rest
    else if c = '[' then isClassRest groups 0 rest
    else if c = '|' then isRest groups false rest
    else if c = '{' then false
    else if c = '*' ∨ c = '+' ∨ c = '?' then repeatable && isRest groups true rest
    else isRest groups true rest

/-- Whether a text closes a class, and `depth` classes around it, and goes on as an expression. -/
def isClassRest (groups depth : Nat) : Text → Bool
  | [] => false
  | ['\\'] => false
  | '\\' :: c :: rest => isEscape c rest && isClassRest groups depth rest
  | c :: rest =>
    if c = '[' then isClassRest groups (depth + 1) rest
    else if c = ']' then
      match depth with
      | 0 => isRest groups true rest
      | depth + 1 => isClassRest groups depth rest
    else
      match rest with
      | '-' :: d :: _ =>
        (decide (d = ']' ∨ d = '-' ∨ d = '[' ∨ d = '\\') || decide (c.toNat ≤ d.toNat)) &&
          isClassRest groups depth rest
      | _ => isClassRest groups depth rest

end

/-- Whether a text is a regular expression. -/
def isPattern (s : Text) : Bool := isRest 0 false s

/-- Whether a text is an exponent, or empty. -/
def isExponent : Text → Bool
  | [] => true
  | c :: rest =>
    let digits := match rest with
      | '+' :: digits => digits
      | '-' :: digits => digits
      | _ => rest
    (c == 'e' || c == 'E') && !digits.isEmpty && digits.all Char.isDigit

/-- Whether a text is a decimal number without a sign. -/
def isDecimal (s : Text) : Bool :=
  let behind := s.dropWhile Char.isDigit
  match s.takeWhile Char.isDigit, behind with
  | whole, '.' :: rest =>
    !(whole ++ rest.takeWhile Char.isDigit).isEmpty && isExponent (rest.dropWhile Char.isDigit)
  | whole, _ => !whole.isEmpty && isExponent behind

/-- Whether a text is a number with a plus sign, which is compared as a number and not as a pattern.
-/
def isSigned : Text → Bool
  | '+' :: rest =>
    isDecimal rest ||
      ["inf".toList, "infinity".toList, "nan".toList].contains (rest.map Char.toLower)
  | _ => false

end StateOverlay.Pattern
