/-
What one line of a generated header means for the relocation.

A line is blank or opens with a comment, or it is a preprocessor directive, or it is code.  Code is
sorted by its shape alone: `classify` answers with the identifier that a declaration names, together
with its record initializer if it has one, or with the reason why the line is left out.
-/
import StateOverlay.Config
import StateOverlay.Declaration

namespace StateOverlay

/-- A record descriptor with a brace initializer. -/
structure Record where
  name : Text
  /-- The trimmed values in positional order; an empty one marks an absent position. -/
  rawValues : List Text
deriving DecidableEq

/-- Why a line of code is left out of the relocation. -/
inductive SkipReason where
  /-- The line does not end in a semicolon, a trailing comment aside. -/
  | unterminated
  /-- The line declares a function. -/
  | prototype
  /-- The line ends in a semicolon but names nothing. -/
  | noIdentifier
deriving DecidableEq

/-- A line of code that is left out of the relocation. -/
structure SkippedLine where
  /-- The number of the line in its header, the first being 1. -/
  lineNumber : Nat
  /-- The line without outer white space. -/
  text : Text
  reason : SkipReason
deriving DecidableEq

/-- What a line of code is to the relocation. -/
inductive LineClass where
  | declaration (name : Text) (record : Option Record)
  | skipped (reason : SkipReason)
deriving DecidableEq

/-- Whether a line is blank or opens with a block comment. -/
def isQuiet (line : Text) : Bool :=
  let trimmed := Text.trim line
  trimmed.isEmpty || ['/', '*'].isPrefixOf trimmed

/-- Whether a line is a preprocessor directive. -/
def isDirective (line : Text) : Bool := ['#'].isPrefixOf (Text.trim line)

/-- Sorts a line of code by its shape. -/
def classify (config : Config) (line : Text) : LineClass :=
  let code := Text.trim (Declaration.stripComment line)
  if code.getLast? = some ';' then
    let declarator := Declaration.declarator config.storageQualifier code.dropLast
    match Declaration.trailingName? declarator with
    | some name =>
      let record := Declaration.record? config.storageQualifier config.recordTypeTag code
      .declaration name (record.map fun (name, contents) =>
        { name, rawValues := Declaration.splitValues contents })
    | none => .skipped (if declarator.getLast? = some ')' then .prototype else .noIdentifier)
  else .skipped .unterminated

end StateOverlay
