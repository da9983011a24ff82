/-
What the library reports while it works.

An event is a fact of a run: a line left out, a file written.  Its severity, its component, its
message and its fields are functions of it, so that no step of a run builds log text of its own.
The events of scanning, generating and patching depend on their input alone:

* `scanEvents` — one event for each skipped line and each record, and one for the whole scan;
* `generateEvents` — the event of generating the texts;
* `patchEvents` — the event of a companion that needs no patch.
-/
import StateOverlay.Companion
import StateOverlay.Files.Path
import StateOverlay.Overlay
import StateOverlay.Text.Quoted

namespace StateOverlay

/-- How much an event matters, the gravest first. -/
inductive Severity where
  | error
  | warn
  | info
  | debug
  | trace
deriving DecidableEq

/-- How many severities are as grave as this one or graver. -/
def Severity.rank : Severity → Nat
  | .error => 1
  | .warn => 2
  | .info => 3
  | .debug => 4
  | .trace => 5

/-- The part of the library that an event comes from. -/
inductive Component where
  | config
  | scanner
  | overlay
  | patcher
  | transform
deriving DecidableEq

/-- The path under which a component is filtered and shown. -/
def Component.target : Component → Text
  | .config => "locals_core::config".toList
  | .scanner => "locals_core::scanner".toList
  | .overlay => "locals_core::overlay".toList
  | .patcher => "locals_core::patcher".toList
  | .transform => "locals_core::transform".toList

/-- A fact reported by a run. -/
inductive Event where
  | configLoaded (path : Path)
  | recordFound (record : Record)
  /-- A line is left out; it is suspicious if it begins like a declaration to relocate. -/
  | lineSkipped (suspicious : Bool) (line : SkippedLine)
  | scanned (preamble identifiers records skipped : Nat)
  | generating (macros records : Nat) (paramAlias : Bool)
  | patchedBefore (inclusion : Text)
  | overlayKept (header : Path)
  | noCompanion (path : Path)
  | planned (header : Path) (relocated records skipped : Nat) (companion : CompanionStatus)
  | dryRun (files : Nat)
  | wrote (path : Path) (bytes : Nat)
  | committed (files : Nat)
deriving DecidableEq

/-- The name of a reason in log lines. -/
def SkipReason.logName : SkipReason → Text
  | .unterminated => "Unterminated".toList
  | .prototype => "Prototype".toList
  | .noIdentifier => "NoIdentifier".toList

/-- The name of a companion status in log lines. -/
def CompanionStatus.logName : CompanionStatus → Text
  | .patched => "Patched".toList
  | .alreadyPatched => "AlreadyPatched".toList
  | .missing => "Missing".toList

namespace Event

/-- How much an event matters: a line that looks like a declaration is a warning, the milestones of
a run are for information, and the rest is for debugging. -/
def severity : Event → Severity
  | .lineSkipped true _ => .warn
  | .overlayKept _ | .planned .. | .dryRun _ | .committed _ => .info
  | _ => .debug

/-- The part of the library that reports an event. -/
def component : Event → Component
  | .configLoaded _ => .config
  | .recordFound _ | .lineSkipped .. | .scanned .. => .scanner
  | .generating .. => .overlay
  | .patchedBefore _ => .patcher
  | .overlayKept _ | .noCompanion _ | .planned .. | .dryRun _ | .wrote .. | .committed _ =>
    .transform

/-- What an event says, its values aside. -/
def message : Event → Text
  | .configLoaded _ => "loaded overlay configuration".toList
  | .recordFound _ => "record initializer".toList
  | .lineSkipped true _ => "declaration-like line not relocated".toList
  | .lineSkipped false _ => "skipped line".toList
  | .scanned .. => "scanned header".toList
  | .generating .. => "generating overlay".toList
  | .patchedBefore _ => "companion already patched".toList
  | .overlayKept _ => "header already includes the overlay, keeping previous overlay".toList
  | .noCompanion _ => "no companion source".toList
  | .planned .. => "planned transformation".toList
  | .dryRun _ => "dry run, nothing written".toList
  | .wrote .. => "wrote file".toList
  | .committed _ => "transformation committed".toList

/-- The values that an event carries, each under its name. -/
def fields : Event → List (Text × Text)
  | .configLoaded path => [("path".toList, Bytes.shown path)]
  | .recordFound record =>
    [("name".toList, record.name), ("values".toList, Text.quotedList record.rawValues)]
  | .lineSkipped suspicious line =>
    [("line".toList, Text.ofNat line.lineNumber), ("reason".toList, line.reason.logName)] ++
      if suspicious then [("text".toList, line.text)] else []
  | .scanned preamble identifiers records skipped =>
    [("preamble".toList, Text.ofNat preamble), ("identifiers".toList, Text.ofNat identifiers),
      ("records".toList, Text.ofNat records), ("skipped".toList, Text.ofNat skipped)]
  | .generating macros records paramAlias =>
    [("macros".toList, Text.ofNat macros), ("records".toList, Text.ofNat records),
      ("param_alias".toList, if paramAlias then "true".toList else "false".toList)]
  | .patchedBefore inclusion => [("include".toList, inclusion)]
  | .overlayKept header => [("header".toList, Bytes.shown header)]
  | .noCompanion path => [("companion".toList, Bytes.shown path)]
  | .planned header relocated records skipped companion =>
    [("header".toList, Bytes.shown header), ("relocated".toList, Text.ofNat relocated),
      ("records".toList, Text.ofNat records), ("skipped".toList, Text.ofNat skipped),
      ("companion".toList, companion.logName)]
  | .dryRun files => [("files".toList, Text.ofNat files)]
  | .wrote path bytes => [("path".toList, Bytes.shown path), ("bytes".toList, Text.ofNat bytes)]
  | .committed files => [("files".toList, Text.ofNat files)]

end Event

/-- The name of a severity in log lines. -/
def Severity.label : Severity → Text
  | .error => "ERROR".toList
  | .warn => "WARN".toList
  | .info => "INFO".toList
  | .debug => "DEBUG".toList
  | .trace => "TRACE".toList

/-- An event as a log line. -/
def Event.render (event : Event) : Text :=
  event.severity.label ++ [' '] ++ event.component.target ++ ": ".toList ++ event.message ++
    event.fields.flatMap fun (name, value) => [' '] ++ name ++ ['='] ++ value

/-- Whether a skipped line deserves a warning: it is no prototype and begins with the qualifier. -/
def isSuspicious (config : Config) (line : SkippedLine) : Bool :=
  line.reason != .prototype && Declaration.isQualified config.storageQualifier line.text

/-- What the scan reports of a line of code. -/
def CodeLine.events (config : Config) (code : CodeLine) : List Event :=
  match code.lineClass with
  | .declaration _ record => (record.map Event.recordFound).toList
  | .skipped _ =>
    (code.skipped?.map fun line => .lineSkipped (isSuspicious config line) line).toList

/-- What scanning a header reports. -/
def scanEvents (config : Config) (source : Text) : List Event :=
  let scan := Scan.ofSource config source
  (codeLines config source).flatMap (CodeLine.events config) ++
    [.scanned scan.preamble.length scan.identifiers.length scan.records.length scan.skipped.length]

/-- What generating the texts for a scan reports. -/
def generateEvents (config : Config) (scan : Scan) : List Event :=
  [.generating (Overlay.shadowed config scan).length scan.records.length
    (scan.isRelocated config.paramArrayIdent)]

/-- What patching a companion with a line reports. -/
def patchEvents (inclusion : Text) : PatchOutcome → List Event
  | .alreadyPatched => [.patchedBefore inclusion]
  | .inserted _ | .markerMissing => []

end StateOverlay
