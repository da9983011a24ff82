/-
Numbers of a JSON text.

A numeral is read as it is written, and only a message about it asks for its value: an integer if it
fits in 64 bits, and a binary64 number otherwise.

Design notes: the value of a fraction or an exponent is computed from a significand of 64 bits and
one multiplication or division by a power of ten, so its last bit is that of this computation and
not always that of the number as written.
-/
import StateOverlay.Json.Fault

namespace StateOverlay.Json

/-- A number as it is written. -/
structure Numeral where
  negative : Bool
  /-- The digits before the point. -/
  whole : Text
  /-- The digits behind the point; empty if there is no point. -/
  fraction : Text
  /-- The sign and the digits of the exponent, if there is one. -/
  exponent : Option (Bool × Text)

namespace Numeral

/-- Reads the digits before the point.  The faults of a text that ends too early are given. -/
def readWhole (atEnd : Problem) : Text → Except Fault (Text × Text)
  | [] => .error { problem := atEnd, unread := [] }
  | c :: rest =>
    if c = '0' then
      match rest with
      | [] => .ok (['0'], [])
      | d :: _ =>
        if d.isDigit then .error { problem := .badNumber, unread := rest, past := 1 }
        else .ok (['0'], rest)
    else if c.isDigit then .ok (c :: rest.takeWhile Char.isDigit, rest.dropWhile Char.isDigit)
    else .error { problem := .badNumber, unread := c :: rest, past := 1 }

/-- Reads at least one digit. -/
def readDigits (atEnd : Problem) (s : Text) : Except Fault (Text × Text) :=
  match s with
  | [] => .error { problem := atEnd, unread := [] }
  | c :: rest =>
    if c.isDigit then .ok (c :: rest.takeWhile Char.isDigit, rest.dropWhile Char.isDigit)
    else .error { problem := .badNumber, unread := s, past := 1 }

/-- Reads the digits behind a point, if there is one. -/
def readFraction (atEnd : Problem) : Text → Except Fault (Text × Text)
  | '.' :: rest => readDigits atEnd rest
  | s => .ok ([], s)

/-- Splits the sign off an exponent: whether it is negative, and its digits. -/
def splitSign : Text → Bool × Text
  | '+' :: digits => (false, digits)
  | '-' :: digits => (true, digits)
  | digits => (false, digits)

/-- The digits of an exponent are no longer than it. -/
theorem length_splitSign (s : Text) : (splitSign s).2.length ≤ s.length := by
  simp only [splitSign]
  split <;> simp

/-- Reads an exponent, if there is one. -/
def readExponent (atEnd : Problem) (s : Text) : Except Fault (Option (Bool × Text) × Text) :=
  match s with
  | [] => .ok (none, [])
  | c :: rest =>
    if c = 'e' ∨ c = 'E' then
      match readDigits atEnd (splitSign rest).2 with
      | .error fault => .error fault
      | .ok (digits, after) => .ok (some ((splitSign rest).1, digits), after)
    else .ok (none, s)

/-- Reads a number without its sign. -/
def readUnsigned (atEnd : Problem) (negative : Bool) (s : Text) :
    Except Fault (Numeral × Text) := do
  let (whole, s) ← readWhole atEnd s
  let (fraction, s) ← readFraction atEnd s
  let (exponent, s) ← readExponent atEnd s
  return ({ negative, whole, fraction, exponent }, s)

/-- Reads a number. -/
def read (atEnd : Problem) : Text → Except Fault (Numeral × Text)
  | '-' :: rest => readUnsigned atEnd true rest
  | s => readUnsigned atEnd false s

/-- Dropping characters makes no text longer. -/
theorem length_dropWhile (p : Char → Bool) (s : Text) : (s.dropWhile p).length ≤ s.length :=
  (List.dropWhile_suffix _).length_le

/-- The digits before the point are at least one. -/
theorem length_of_readWhole {atEnd : Problem} {s digits rest : Text}
    (h : readWhole atEnd s = .ok (digits, rest)) : rest.length < s.length := by
  simp only [readWhole] at h
  split at h
  · cases h
  · next c tail =>
    split at h
    · split at h
      · cases h
        simp
      · split at h
        · cases h
        · cases h
          exact Nat.lt_succ_self _
    · split at h
      · cases h
        exact Nat.lt_succ_of_le (length_dropWhile _ _)
      · cases h

/-- Digits that have to be there are at least one. -/
theorem length_of_readDigits {atEnd : Problem} {s digits rest : Text}
    (h : readDigits atEnd s = .ok (digits, rest)) : rest.length < s.length := by
  simp only [readDigits] at h
  split at h
  · cases h
  · split at h
    · cases h
      exact Nat.lt_succ_of_le (length_dropWhile _ _)
    · cases h

/-- A fraction makes no text longer. -/
theorem length_of_readFraction {atEnd : Problem} {s digits rest : Text}
    (h : readFraction atEnd s = .ok (digits, rest)) : rest.length ≤ s.length := by
  simp only [readFraction] at h
  split at h
  · exact Nat.le_of_lt (Nat.lt_succ_of_lt (length_of_readDigits h))
  · cases h
    exact Nat.le_refl _

/-- An exponent makes no text longer. -/
theorem length_of_readExponent {atEnd : Problem} {s rest : Text} {exponent : Option (Bool × Text)}
    (h : readExponent atEnd s = .ok (exponent, rest)) : rest.length ≤ s.length := by
  simp only [readExponent] at h
  split at h
  · cases h
    exact Nat.le_refl _
  · next c tail =>
    split at h
    · split at h
      · cases h
      · next digits after hdigits =>
        have hafter := length_of_readDigits hdigits
        cases h
        have := length_splitSign tail
        simp only [List.length_cons]
        omega
    · cases h
      exact Nat.le_refl _

/-- A number without its sign leaves less. -/
theorem length_of_readUnsigned {atEnd : Problem} {negative : Bool} {s rest : Text}
    {numeral : Numeral} (h : readUnsigned atEnd negative s = .ok (numeral, rest)) :
    rest.length < s.length := by
  simp only [readUnsigned, bind, Except.bind, pure, Except.pure] at h
  split at h
  · cases h
  · next whole hwhole =>
    split at h
    · cases h
    · next fraction hfraction =>
      split at h
      · cases h
      · next exponent hexponent =>
        cases h
        have := length_of_readWhole hwhole
        have := length_of_readFraction hfraction
        have := length_of_readExponent hexponent
        omega

/-- A number leaves less. -/
theorem length_of_read {atEnd : Problem} {s rest : Text} {numeral : Numeral}
    (h : read atEnd s = .ok (numeral, rest)) : rest.length < s.length := by
  simp only [read] at h
  split at h
  · exact Nat.lt_succ_of_lt (length_of_readUnsigned h)
  · exact length_of_readUnsigned h

/-- The value of a digit. -/
def digitValue (c : Char) : Nat := c.toNat - '0'.toNat

/-- Takes digits into a significand while it fits in 64 bits; the digits from the first one that
does not fit are left. -/
def gather (significand : Nat) : Text → Nat × Text
  | [] => (significand, [])
  | c :: rest =>
    let next := significand * 10 + digitValue c
    if next < Nat.pow 2 64 then gather next rest else (significand, c :: rest)

/-- The digits behind the one with which a number passes a limit, if it does. -/
def passing? (limit value : Nat) : Text → Option Text
  | [] => none
  | c :: rest =>
    let next := value * 10 + digitValue c
    if limit < next then some rest else passing? limit next rest

/-- A power of ten as a binary64 number. -/
def powerOfTen (exponent : Nat) : Float := Float.ofScientific 1 false exponent

/-- A number divided by a power of ten, in as many steps as there are full powers in it. -/
def divideByPower (value : Float) (exponent : Nat) : Float :=
  if exponent ≤ 308 then value / powerOfTen exponent
  else if value == 0 then value
  else divideByPower (value / powerOfTen 308) (exponent - 308)
termination_by exponent

/-- A significand times a power of ten; none if the product is too large. -/
def scale? (significand : Nat) (exponent : Int) : Option Float :=
  let value := significand.toUInt64.toFloat
  if exponent < 0 then some (divideByPower value (-exponent).toNat)
  else if 308 < exponent then (if significand = 0 then some value else none)
  else
    let product := value * powerOfTen exponent.toNat
    if product.isInf then none else some product

/-- The value of a numeral as binary64.  The text behind the numeral tells where a fault is. -/
def toFloat (numeral : Numeral) (rest : Text) : Except Fault Float :=
  let (significand, wholeLeft) := gather 0 numeral.whole
  let (significand, fractionLeft) := gather significand numeral.fraction
  let shift : Int := wholeLeft.length - (numeral.fraction.length - fractionLeft.length)
  let signed := fun value => if numeral.negative then -value else value
  let scaled := fun (exponent : Int) =>
    match scale? significand exponent with
    | some value => .ok (signed value)
    | none => .error { problem := .numberTooLarge, unread := rest }
  match numeral.exponent with
  | none => scaled shift
  | some (negative, digits) =>
    match passing? (Nat.pow 2 31 - 1) 0 digits with
    -- an exponent of 32 bits or more decides alone: the number is zero or too large
    | some left =>
      if significand ≠ 0 ∧ !negative then
        .error { problem := .numberTooLarge, unread := left ++ rest }
      else .ok (signed 0)
    | none =>
      let exponent := digits.foldl (fun value c => value * 10 + digitValue c) 0
      scaled (if negative then shift - exponent else shift + exponent)

/-- The value of a numeral as a message names it. -/
def shape (numeral : Numeral) (rest : Text) : Except Fault Shape :=
  let (size, left) := gather 0 numeral.whole
  let isWhole := left.isEmpty && numeral.fraction.isEmpty && numeral.exponent.isNone
  if isWhole ∧ !numeral.negative then .ok (.integer size)
  -- a zero with a sign is no integer, because no integer keeps the sign
  else if isWhole ∧ 0 < size ∧ size ≤ Nat.pow 2 63 then .ok (.integer (-size))
  else (numeral.toFloat rest).map Shape.float

end Numeral

end StateOverlay.Json
