/-
What the command prints about a run.

A run that succeeds is summed up in one line or as a JSON object; the object cannot hold a path that
is no text.  A run that fails is described by what could not be done and, below that, the causes one
after another, numbered if there are several.
-/
import StateOverlay.Json.Printer
import StateOverlay.Run.Transform

namespace StateOverlay

/-- The name of a reason in a report. -/
def SkipReason.reportName : SkipReason → Text
  | .unterminated => "unterminated".toList
  | .prototype => "prototype".toList
  | .noIdentifier => "no_identifier".toList

/-- The name of a companion status in a report. -/
def CompanionStatus.reportName : CompanionStatus → Text
  | .patched => "patched".toList
  | .alreadyPatched => "already_patched".toList
  | .missing => "missing".toList

/-- A record as a JSON value. -/
def Record.toJson (record : Record) : Json.Value :=
  .object
    [("name".toList, .text record.name), ("raw_values".toList, .list (record.rawValues.map .text))]

/-- A skipped line as a JSON value. -/
def SkippedLine.toJson (line : SkippedLine) : Json.Value :=
  .object
    [("line_number".toList, .number line.lineNumber), ("text".toList, .text line.text),
      ("reason".toList, .text line.reason.reportName)]

namespace Summary

/-- A summary as a JSON value, its paths given as texts. -/
def toJson (summary : Summary) (header : Text) (filesWritten : List Text) : Json.Value :=
  .object
    [("header".toList, .text header),
      ("relocated".toList, .list (summary.relocated.map .text)),
      ("records".toList, .list (summary.records.map Record.toJson)),
      ("param_alias".toList, .boolean summary.paramAlias),
      ("skipped".toList, .list (summary.skipped.map SkippedLine.toJson)),
      ("companion".toList, .text summary.companion.reportName),
      ("files_written".toList, .list (filesWritten.map .text)),
      ("dry_run".toList, .boolean summary.dryRun),
      ("already_transformed".toList, .boolean summary.alreadyTransformed)]

/-- A summary as a JSON value.  JSON holds texts, and so there is none if a path is no text. -/
def toJson? (summary : Summary) : Option Json.Value := do
  let header ← Bytes.text? summary.header
  let filesWritten ← summary.filesWritten.mapM Bytes.text?
  return summary.toJson header filesWritten

/-- The report of a run, if it can be given. -/
def report? (summary : Summary) : Option Text := summary.toJson?.map (Json.Value.render 0)

/-- A run in one line. -/
def line (summary : Summary) : Text :=
  "Relocated ".toList ++ Text.ofNat summary.relocated.length ++ " identifiers (".toList ++
    Text.ofNat summary.records.length ++ " record initializers, ".toList ++
    Text.ofNat summary.skipped.length ++ " lines skipped) from ".toList ++
    Bytes.shown summary.header

end Summary

namespace CommandLine

/-- A cause, with its lines indented behind its number, if it has one. -/
def causeText (number : Option Nat) (cause : Text) : Text :=
  let (first, other) : Text × Text :=
    match number with
    | some n =>
      let digits := Text.ofNat n
      (List.replicate (5 - digits.length) ' ' ++ digits ++ [':', ' '], List.replicate 7 ' ')
    | none => (List.replicate 4 ' ', List.replicate 4 ' ')
  first ++ ('\n' :: other).intercalate (cause.splitOn '\n')

/-- The causes below a failure. -/
def causesText : List Text → Text
  | [] => []
  | [cause] => "\n\nCaused by:\n".toList ++ causeText none cause
  | causes =>
    "\n\nCaused by:".toList ++
      causes.zipIdx.flatMap fun (cause, number) => '\n' :: causeText (some number) cause

/-- What is printed when a run fails, in the course of transforming a header if one is given. -/
def failureText (header : Option Path) (error : RunError) : Text :=
  "Error: ".toList ++
    match header with
    | some header =>
      "transforming ".toList ++ Bytes.shown header ++
        causesText (error.message :: error.cause?.toList)
    | none => error.message ++ causesText error.cause?.toList

/-- What is printed in the place of a report that cannot be given. -/
def noReportText : Text := "Error: path contains invalid UTF-8 characters".toList

end CommandLine

end StateOverlay
