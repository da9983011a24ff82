/-
The command.

The command reads its arguments, loads the configuration that they name, and transforms the header.
A dry run is planned and not committed, and prints what it would write.

* `command` — a run of the command as a procedure, which never fails itself;
* `invoke` — the command on a directory tree, with its log.
-/
import StateOverlay.CommandLine.Arguments
import StateOverlay.CommandLine.Report
import StateOverlay.Log.Filter

namespace StateOverlay.CommandLine

/-- What the command leaves to its caller. -/
structure Output where
  exitCode : Nat
  stdout : Text := []
  stderr : Text := []

/-- Some lines, each ended by a line feed. -/
def linesText (lines : List Text) : Text := lines.flatMap (· ++ ['\n'])

/-- What `--version` prints. -/
def versionText : Text := "transform-locals 0.1.0\n".toList

/-- What `--help` prints. -/
def helpText : Text :=
  linesText <| List.map String.toList
    ["Relocate the statics of a generated COBOL local header into a state overlay",
      "",
      "Usage: transform-locals [OPTIONS] <HEADER>",
      "",
      "Arguments:",
      "  <HEADER>  Path to the generated local header (e.g. cobolana.c.l.h)",
      "",
      "Options:",
      "      --config <FILE>  JSON file overriding overlay names",
      "      --dry-run        Plan the transformation without writing any file",
      "      --report         Print a JSON summary of the run on stdout",
      "      --debug          Enable debug logging",
      "  -h, --help           Print help",
      "  -V, --version        Print version"]

/-- The line about a file that a dry run would write. -/
def wouldWriteLine (path : Path) : Text := "would write ".toList ++ Bytes.shown path

/-- What is printed for a run that succeeded, behind the lines of a dry run.  A report that cannot
be given makes the command fail. -/
def success (options : Options) (planned : List Path) (summary : Summary) : Output :=
  let wouldWrite := planned.map wouldWriteLine
  if options.report then
    match summary.report? with
    | some report =>
      { exitCode := 0, stdout := linesText [report], stderr := linesText wouldWrite }
    | none => { exitCode := 1, stderr := linesText (wouldWrite ++ [noReportText]) }
  else { exitCode := 0, stderr := linesText (wouldWrite ++ [summary.line]) }

/-- What is printed for a run that failed. -/
def failure (header : Option Path) (error : RunError) : Output :=
  { exitCode := 1, stderr := linesText [failureText header error] }

section

variable (compile : Config → Except Text Unit)

/-- The configuration that the options name, ready for runs. -/
def chosenConfig (options : Options) : Procedure Config :=
  match options.config with
  | some path => do
    let config ← loadConfig path
    prepare compile config
  | none => prepare compile {}

/-- Transforms the header that the options name: the paths of a dry run, and the summary. -/
def transformHeader (config : Config) (options : Options) : Procedure (List Path × Summary) :=
  if options.dryRun then do
    let plan ← plan config true options.header
    return (plan.paths, plan.summary)
  else do
    let summary ← transform config false options.header
    return ([], summary)

/-- A run of the command. -/
def command (options : Options) : Procedure Output := do
  match ← (chosenConfig compile options).attempt with
  | .error error => return failure none error
  | .ok config =>
    match ← (transformHeader config options).attempt with
    | .error error => return failure (some options.header) error
    | .ok (planned, summary) => return success options planned summary

end

/-- The log of a run: its filter, and the lines about words of the setting that are no directives.
A setting that is there overrides `--debug`. -/
def logSetup (setting : Option Text) (options : Options) : LogFilter × List Text :=
  match setting with
  | some setting =>
    (LogFilter.ofSetting setting, (LogFilter.ignoredWords setting).map fun (word, fault) =>
      "ignoring `".toList ++ word ++ ['`', ':', ' '] ++ fault.message)
  | none => (LogFilter.standard (if options.debug then .debug else .info), [])

/-- What is printed for arguments that ask for no run. -/
def answerWithoutRun : Except UsageError Request → Output
  | .error error => { exitCode := 2, stderr := linesText [error.message] }
  | .ok .version => { exitCode := 0, stdout := versionText }
  | .ok _ => { exitCode := 0, stdout := helpText }

/-- The lines of the log of a run that reported some events. -/
def logLines (setting : Option Text) (options : Options) (events : List Event) : List Text :=
  let (filter, ignored) := logSetup setting options
  ignored ++ (events.filter filter.shows).map Event.render

/-- Runs the command on a directory tree. -/
def invoke (compile : Config → Except Text Unit) (setting : Option Text) (arguments : List Bytes)
    (tree : Directory) : Directory × Output :=
  match parse arguments with
  | .ok (.run options) =>
    let outcome := (command compile options).run tree
    let output :=
      match outcome.result with
      | .ok output => output
      | .error error => failure none error
    let log := linesText (logLines setting options outcome.events)
    (outcome.tree, { output with stderr := log ++ output.stderr })
  | request => (tree, answerWithoutRun request)

end StateOverlay.CommandLine
