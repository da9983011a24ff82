/-
What can be wrong with a JSON text, and where.

A fault is a problem and the place where reading stopped.  The place is kept as the text that was
not read, and turned into a line and a column only when it is shown: lines count from one, and the
column counts the bytes read on the line.
-/
import StateOverlay.Decimal.Layout
import StateOverlay.Text.Quoted

namespace StateOverlay.Json

/-- A JSON value as a message names it: scalars with their values, sequences and maps without. -/
inductive Shape where
  | null
  | boolean (value : Bool)
  | integer (value : Int)
  | float (value : Float)
  | string (value : Text)
  | sequence
  | map

/-- Numbers in messages have the point in its place up to sixteen digits before it, and below one as
long as no more than four zeros follow it.  The exponents of the others have a sign. -/
def floatLayout : Decimal.Layout := { pointBelow := 16, pointFrom := -5, plusSign := true }

/-- The text of a finite number. -/
def floatText (value : Float) : Text :=
  let bits := value.toBits
  Decimal.render floatLayout (decide (Nat.pow 2 63 ≤ bits.toNat))
    (Decimal.shortest (Decimal.Binary.ofBits bits))

/-- The text of an integer. -/
def integerText (value : Int) : Text := Decimal.exponentText value

/-- A value as a message names it. -/
def Shape.message : Shape → Text
  | .null => "null".toList
  | .boolean true => "boolean `true`".toList
  | .boolean false => "boolean `false`".toList
  | .integer value => "integer `".toList ++ integerText value ++ ['`']
  | .float value => "floating point `".toList ++ floatText value ++ ['`']
  | .string value => "string ".toList ++ Text.quoted value
  | .sequence => "sequence".toList
  | .map => "map".toList

/-- What is wrong with a text. -/
inductive Problem where
  | endInList
  | endInObject
  | endInString
  | endInValue
  | expectedColon
  | expectedListEnd
  | expectedObjectEnd
  | expectedWord
  | expectedValue
  | badEscape
  | badNumber
  | numberTooLarge
  | controlCharacter
  | keyNotString
  | loneSurrogate
  | trailingComma
  | trailingText
  | unfinishedPair
  /-- A value of one kind stands where one of another kind is expected. -/
  | wrongShape (found : Shape) (expected : Text)
  /-- A field is given twice. -/
  | duplicateField (name : Text)

/-- The kinds of problems. -/
inductive Category where
  /-- The text is not JSON. -/
  | malformed
  /-- The text stops early. -/
  | cutShort
  /-- The text is JSON, but its values do not fit. -/
  | misfit
deriving DecidableEq

/-- The kind of a problem. -/
def Problem.category : Problem → Category
  | .endInList | .endInObject | .endInString | .endInValue => .cutShort
  | .wrongShape .. | .duplicateField _ => .misfit
  | _ => .malformed

/-- The text of a problem. -/
def Problem.message : Problem → Text
  | .endInList => "EOF while parsing a list".toList
  | .endInObject => "EOF while parsing an object".toList
  | .endInString => "EOF while parsing a string".toList
  | .endInValue => "EOF while parsing a value".toList
  | .expectedColon => "expected `:`".toList
  | .expectedListEnd => "expected `,` or `]`".toList
  | .expectedObjectEnd => "expected `,` or `\x7d`".toList
  | .expectedWord => "expected ident".toList
  | .expectedValue => "expected value".toList
  | .badEscape => "invalid escape".toList
  | .badNumber => "invalid number".toList
  | .numberTooLarge => "number out of range".toList
  | .controlCharacter => "control character (\\u0000-\\u001F) found while parsing a string".toList
  | .keyNotString => "key must be a string".toList
  | .loneSurrogate => "lone leading surrogate in hex escape".toList
  | .trailingComma => "trailing comma".toList
  | .trailingText => "trailing characters".toList
  | .unfinishedPair => "unexpected end of hex escape".toList
  | .wrongShape found expected =>
    "invalid type: ".toList ++ found.message ++ ", expected ".toList ++ expected
  | .duplicateField name => "duplicate field `".toList ++ name ++ ['`']

/-- A problem, and the place where it was noticed: some bytes into the text that was not read. -/
structure Fault where
  problem : Problem
  unread : Text
  past : Nat := 0

/-- A place in a text. -/
structure Position where
  /-- The line, the first being 1. -/
  line : Nat := 1
  /-- The number of bytes read on the line. -/
  column : Nat := 0
deriving DecidableEq

/-- The place some bytes further in a text, or its end if it has fewer. -/
def Position.advance (position : Position) : Nat → Text → Position
  | _, [] => position
  | bytes, c :: rest =>
    if bytes = 0 then position
    else if c = '\n' then advance { line := position.line + 1, column := 0 } (bytes - 1) rest
    else
      advance { position with column := position.column + min bytes c.utf8Size }
        (bytes - c.utf8Size) rest

/-- The place of a fault in the text that was read. -/
def Fault.position (whole : Text) (fault : Fault) : Position :=
  Position.advance {} (Text.utf8Size whole - Text.utf8Size fault.unread + fault.past) whole

end StateOverlay.Json
