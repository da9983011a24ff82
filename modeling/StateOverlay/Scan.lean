/-
Scanning a generated header.

A header is a preamble of blank and commented lines, and a body.  From the body the scan collects
the identifiers to relocate and the record initializers among their declarations; code that it does
not understand is listed as skipped and never stops it.

Design notes: the scan is a view of `codeLines`, the numbered lines of code with their classes.
Nothing is carried from one line to the next, so every part of it is a `filterMap` of that list.
-/
import StateOverlay.Scan.Line

namespace StateOverlay

/-- What scanning a header found. -/
structure Scan where
  /-- The lines before the body. -/
  preamble : List Text := []
  /-- The identifiers to relocate, each once, in the order of their first declarations. -/
  identifiers : List Text := []
  /-- The record initializers in the order of their lines. -/
  records : List Record := []
  skipped : List SkippedLine := []
  /-- Whether the body is nothing but the overlay inclusion of an earlier run. -/
  alreadyTransformed : Bool := false
deriving DecidableEq

/-- A line of code with its number in the header and its class. -/
structure CodeLine where
  number : Nat
  line : Text
  lineClass : LineClass

namespace CodeLine

/-- The identifier that a line of code declares. -/
def name? (code : CodeLine) : Option Text :=
  match code.lineClass with
  | .declaration name _ => some name
  | .skipped _ => none

/-- The record initializer that a line of code declares. -/
def record? (code : CodeLine) : Option Record :=
  match code.lineClass with
  | .declaration _ record => record
  | .skipped _ => none

/-- The entry that a line of code gets if it is left out. -/
def skipped? (code : CodeLine) : Option SkippedLine :=
  match code.lineClass with
  | .declaration _ _ => none
  | .skipped reason => some { lineNumber := code.number, text := Text.trim code.line, reason }

end CodeLine

/-- The preamble of a header: its lines up to the first that is neither blank nor a comment. -/
def preambleLines (source : Text) : List Text := (Text.lines source).takeWhile isQuiet

/-- The numbered lines behind the preamble that are neither blank nor a comment. -/
def bodyLines (source : Text) : List (Text × Nat) :=
  (((Text.lines source).zipIdx 1).dropWhile fun (line, _) => isQuiet line).filter
    fun (line, _) => !isQuiet line

/-- The lines of code of a header: those of its body that are no directives. -/
def codeLines (config : Config) (source : Text) : List CodeLine :=
  ((bodyLines source).filter fun (line, _) => !isDirective line).map fun (line, number) =>
    { number, line, lineClass := classify config line }

namespace Scan

/-- Scans a header. -/
def ofSource (config : Config) (source : Text) : Scan :=
  let body := bodyLines source
  let code := codeLines config source
  { preamble := preambleLines source
    identifiers := (code.filterMap CodeLine.name?).eraseDups
    records := code.filterMap CodeLine.record?
    skipped := code.filterMap CodeLine.skipped?
    alreadyTransformed :=
      !body.isEmpty && body.all fun (line, _) => Text.trim line == config.overlayInclude }

/-- A scan result of given parts, with the repeated identifiers left out. -/
def ofParts (preamble identifiers : List Text) (records : List Record) : Scan :=
  { preamble, identifiers := identifiers.eraseDups, records }

/-- Whether an identifier is relocated. -/
def isRelocated (scan : Scan) (name : Text) : Bool := scan.identifiers.contains name

/-- The identifiers in code point order. -/
def sortedIdentifiers (scan : Scan) : List Text := Text.sort scan.identifiers

end Scan

end StateOverlay
