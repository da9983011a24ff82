/-
The directives of a log filter.

A directive is one word of a setting.  `debug` alone is a threshold for every component and
`path=debug` one for the components whose path begins so; `path` alone shows all they report.
Behind the path, `[{name}]` keeps to the events that carry a value of that name.  A directive may
also name a span of time, `[span]`, or a value, `[{name=value}]`; those concern what happens inside
of spans, and the library has none.

* `Directive.ofWord` — what a word says: a directive, nothing for any event, or a fault;
* `Directive.appliesTo` — whether a directive concerns an event.

Design notes: the parts of a directive are found in the word without outer white space, and cut out
of the word as it stands, at the same places.  So white space in front of a word moves its parts.
-/
import StateOverlay.Log.Event
import StateOverlay.Log.Pattern
import StateOverlay.Text.Word

namespace StateOverlay

/-- A threshold for some events. -/
structure Directive where
  /-- What the path of a component has to begin with. -/
  target : Text := []
  /-- The name of a value that an event has to carry, if there is one. -/
  field : Option Text := none
  /-- The least grave severity that is shown; nothing is shown if there is none. -/
  severity : Option Severity
deriving DecidableEq

/-- Why a word is no directive. -/
inductive DirectiveFault where
  | malformed
  | unknownSeverity
  | badPattern
deriving DecidableEq

/-- The text of a fault. -/
def DirectiveFault.message : DirectiveFault → Text
  | .malformed => "invalid filter directive".toList
  | .unknownSeverity =>
    ("error parsing level filter: expected one of \"off\", \"error\", \"warn\", \"info\", " ++
      "\"debug\", \"trace\", or a number 0-5").toList
  | .badPattern => "invalid field filter: error building NFA".toList

/-- Reads a number in decimal digits, with a plus sign or without. -/
def Text.decimal? (word : Text) : Option Nat :=
  let digits := match word with
    | '+' :: digits => digits
    | _ => word
  if !digits.isEmpty && digits.all Char.isDigit then
    some (digits.foldl (fun value c => value * 10 + (c.toNat - '0'.toNat)) 0)
  else none

/-- Reads a threshold: the name of a severity in any case or its rank, or the word for none or zero.
-/
def Severity.threshold? (word : Text) : Option (Option Severity) :=
  match Text.decimal? word with
  | some 0 => some none
  | some rank => ([error, warn, info, debug, trace].find? (·.rank = rank)).map some
  | none =>
    let label := word.map Char.toUpper
    if label = "OFF".toList then some none
    else ([error, warn, info, debug, trace].find? (·.label = label)).map some

namespace Directive

/-- Whether a word may begin with a character. -/
def isStart (c : Char) : Bool := isAlphanumeric c || c == '-' || c == ':' || c == '_'

/-- The threshold that stands in a word from a place on; everything if nothing stands there. -/
def thresholdAt (word : Text) (place : Nat) : Except DirectiveFault (Option Severity) :=
  match Text.dropBytes place word with
  | [] => .ok (some .trace)
  | name =>
    match Severity.threshold? name with
    | some severity => .ok severity
    | none => .error .unknownSeverity

/-- The threshold behind the closing bracket of a condition. -/
def thresholdBehind (word : Text) (place : Nat) : Text → Except DirectiveFault (Option Severity)
  | [] => .ok (some .trace)
  | '=' :: _ => thresholdAt word (place + 1)
  | _ => .error .malformed

/-- Reads a condition on a field: its name, if the condition asks for no value. -/
def fieldCondition (condition : Text) : Except DirectiveFault (Option Text) :=
  match condition.dropWhile (· != '=') with
  | [] => .ok (some condition)
  | _ :: behind =>
    let value := behind.takeWhile (· != '=')
    if Pattern.isPattern value || Pattern.isSigned value then .ok none else .error .badPattern

/-- Reads a word from behind its opening bracket on. -/
def ofCondition (word target : Text) (place : Nat) (inside : Text) :
    Except DirectiveFault (Option Directive) :=
  let span := inside.takeWhile fun c => c != ']' && c != '{'
  let place := place + Text.utf8Size span
  match inside.dropWhile fun c => c != ']' && c != '{' with
  | [] => .error .malformed
  | ']' :: rest => (thresholdBehind word (place + 1) rest).map fun _ => none
  | _ :: rest =>
    let size := Text.utf8Size (rest.takeWhile (· != '}'))
    match rest.dropWhile (· != '}') with
    | [] => .error .malformed
    | _ :: behind =>
      if size = 0 then .error .malformed
      else do
        let field ← fieldCondition (Text.takeBytes size (Text.dropBytes (place + 1) word))
        match behind with
        | ']' :: rest =>
          let severity ← thresholdBehind word (place + size + 3) rest
          return if span.isEmpty && field.isSome then some { target, field, severity } else none
        | _ => .error .malformed

/-- Reads a word of a setting: a directive, or nothing if no event can meet its conditions. -/
def ofWord (word : Text) : Except DirectiveFault (Option Directive) :=
  match Text.trim word with
  | [] => .error .malformed
  | '[' :: inside => ofCondition word [] 1 inside
  | c :: rest =>
    if isStart c then
      let size := Text.utf8Size ((c :: rest).takeWhile fun c => c != '=' && c != '[')
      let target := Text.takeBytes size word
      match (c :: rest).dropWhile fun c => c != '=' && c != '[' with
      | [] =>
        match Severity.threshold? word with
        | some severity => .ok (some { severity })
        | none => .ok (some { target := word, severity := some .trace })
      | '[' :: inside => ofCondition word target (size + 1) inside
      | _ =>
        (thresholdAt word (size + 1)).map fun severity => some { target, severity }
    else .error .malformed

/-- Whether a directive concerns an event. -/
def appliesTo (directive : Directive) (event : Event) : Bool :=
  directive.target.isPrefixOf event.component.target &&
    match directive.field with
    | some name => name == "message".toList || event.fields.any (·.1 == name)
    | none => true

/-- Whether another directive is at least as special: it has a longer path, or one as long and a
condition, or a condition on a name that is not before the other in code point order. -/
def isBelow (directive other : Directive) : Bool :=
  let size := Text.utf8Size directive.target
  let otherSize := Text.utf8Size other.target
  if size = otherSize then
    match directive.field, other.field with
    | none, _ => true
    | some _, none => false
    | some name, some otherName => Text.leq name otherName
  else size < otherSize

end Directive

end StateOverlay
