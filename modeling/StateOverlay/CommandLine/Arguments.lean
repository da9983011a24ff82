/-
The arguments of the command.

Arguments are read from left to right.  A value is checked only when the next option, the next value
or the end of the arguments shows that it is complete, so an argument that is not known at all is
reported before a fault of the value in front of it.  Arguments need not be texts: options are, but
paths are taken as they are.

* `parse` — what a list of arguments asks for, or the first thing wrong with it;
* `UsageError.message` — the line that says so.
-/
import StateOverlay.Files.Path
import StateOverlay.Text.Terminal

namespace StateOverlay.CommandLine

/-- An option that is on or off. -/
inductive Flag where
  | dryRun
  | report
  | debug
deriving DecidableEq

/-- An option by its long name. -/
inductive LongOption where
  | config
  | flag (flag : Flag)
  | help
  | version
deriving DecidableEq

/-- The option of a name. -/
def LongOption.ofName? (name : Text) : Option LongOption :=
  if name = "config".toList then some .config
  else if name = "dry-run".toList then some (.flag .dryRun)
  else if name = "report".toList then some (.flag .report)
  else if name = "debug".toList then some (.flag .debug)
  else if name = "help".toList then some .help
  else if name = "version".toList then some .version
  else none

/-- An option as messages show it. -/
def LongOption.shown : LongOption → Text
  | .config => "--config <FILE>".toList
  | .flag .dryRun => "--dry-run".toList
  | .flag .report => "--report".toList
  | .flag .debug => "--debug".toList
  | .help => "--help".toList
  | .version => "--version".toList

/-- What is wrong with some arguments. -/
inductive UsageError where
  | unexpectedArgument (argument : Text)
  | unexpectedValue (value : Text) (option : LongOption)
  | repeated (option : LongOption)
  | valueRequired (shown : Text)
  | headerMissing
deriving DecidableEq

/-- The line that says what is wrong.  Of an argument it repeats what a terminal shows. -/
def UsageError.message : UsageError → Text
  | .unexpectedArgument argument =>
    "error: unexpected argument '".toList ++ Text.shown argument ++ "' found".toList
  | .unexpectedValue value option =>
    "error: unexpected value '".toList ++ Text.shown value ++ "' for '".toList ++ option.shown ++
      "' found; no more were expected".toList
  | .repeated option =>
    "error: the argument '".toList ++ option.shown ++ "' cannot be used multiple times".toList
  | .valueRequired shown =>
    "error: a value is required for '".toList ++ shown ++ "' but none was supplied".toList
  | .headerMissing => "error: the following required arguments were not provided:".toList

/-- What a run is asked to do. -/
structure Options where
  header : Path
  config : Option Path
  dryRun : Bool
  report : Bool
  debug : Bool
deriving DecidableEq

/-- What the command is asked to do. -/
inductive Request where
  | help
  | version
  | run (options : Options)
deriving DecidableEq

/-- An option or argument that is not checked yet. -/
inductive Pending where
  | configWithoutValue
  | config (value : Path)
  | header (value : Path)
deriving DecidableEq

/-- What the arguments read so far say. -/
structure Parsed where
  header : Option Path := none
  config : Option Path := none
  flags : List Flag := []
  pending : Option Pending := none

namespace Parsed

/-- Sets the configuration file. -/
def setConfig (parsed : Parsed) (value : Path) : Except UsageError Parsed :=
  if parsed.config.isSome then .error (.repeated .config)
  else if value.isEmpty then .error (.valueRequired (LongOption.shown .config))
  else .ok { parsed with config := some value, pending := none }

/-- Checks what is pending. -/
def resolve (parsed : Parsed) : Except UsageError Parsed :=
  match parsed.pending with
  | none => .ok parsed
  | some .configWithoutValue => .error (.valueRequired (LongOption.shown .config))
  | some (.config value) => parsed.setConfig value
  | some (.header value) =>
    if value.isEmpty then .error (.valueRequired "<HEADER>".toList)
    else .ok { parsed with header := some value, pending := none }

/-- Sets a flag. -/
def setFlag (parsed : Parsed) (flag : Flag) : Except UsageError Parsed := do
  let parsed ← parsed.resolve
  if parsed.flags.contains flag then .error (.repeated (.flag flag))
  else .ok { parsed with flags := flag :: parsed.flags }

/-- Whether the header is given, checked or not. -/
def hasHeader (parsed : Parsed) : Bool :=
  match parsed.pending with
  | some (.header _) => true
  | _ => parsed.header.isSome

/-- Takes an argument that is no option. -/
def positional (parsed : Parsed) (argument : Bytes) : Except UsageError Parsed :=
  if parsed.hasHeader then .error (.unexpectedArgument (Bytes.shown argument))
  else do
    let parsed ← parsed.resolve
    return { parsed with pending := some (.header argument) }

/-- What all the arguments ask for. -/
def finish (parsed : Parsed) : Except UsageError Request := do
  let parsed ← parsed.resolve
  match parsed.header with
  | none => .error .headerMissing
  | some header =>
    return .run
      { header
        config := parsed.config
        dryRun := parsed.flags.contains .dryRun
        report := parsed.flags.contains .report
        debug := parsed.flags.contains .debug }

/-- The letter of a short option, or all that is shown of it if no letter comes first. -/
def letterOf (body : Bytes) : Text :=
  match Bytes.shown body with
  | [] => []
  | letter :: shown => if (Text.bytes [letter]).isPrefixOf body then [letter] else letter :: shown

/-- Reads the arguments that are left.  Behind two dashes every argument is a value. -/
def readArguments (parsed : Parsed) (valuesOnly : Bool) : List Bytes → Except UsageError Request
  | [] => parsed.finish
  | argument :: rest =>
    if valuesOnly then do
      let parsed ← parsed.positional argument
      readArguments parsed true rest
    else
      match (Text.bytes "--".toList).isPrefixOf? argument,
        (Text.bytes "-".toList).isPrefixOf? argument with
      | some [], _ => readArguments parsed true rest
      | some body, _ =>
        let name := body.takeWhile (· != '='.toUInt8)
        match (Bytes.text? name).bind LongOption.ofName?, body.dropWhile (· != '='.toUInt8) with
        -- an unknown option is reported before what is pending is checked
        | none, _ => .error (.unexpectedArgument ("--".toList ++ Bytes.shown name))
        | some .config, [] => do
          let parsed ← parsed.resolve
          readArguments { parsed with pending := some .configWithoutValue } false rest
        | some .config, _ :: value => do
          let parsed ← parsed.resolve
          let parsed ← parsed.setConfig value
          readArguments parsed false rest
        | some option, _ :: value => .error (.unexpectedValue (Bytes.shown value) option)
        | some (.flag flag), [] => do
          let parsed ← parsed.setFlag flag
          readArguments parsed false rest
        | some .help, [] => parsed.resolve.map fun _ => .help
        | some .version, [] => parsed.resolve.map fun _ => .version
      | none, some (byte :: body) =>
        let letter := letterOf (byte :: body)
        if letter = ['h'] then parsed.resolve.map fun _ => .help
        else if letter = ['V'] then parsed.resolve.map fun _ => .version
        else .error (.unexpectedArgument ('-' :: letter))
      | none, _ =>
        if parsed.pending = some .configWithoutValue then
          readArguments { parsed with pending := some (.config argument) } false rest
        else do
          let parsed ← parsed.positional argument
          readArguments parsed false rest

end Parsed

/-- What a list of arguments asks for. -/
def parse (arguments : List Bytes) : Except UsageError Request :=
  Parsed.readArguments {} false arguments

end StateOverlay.CommandLine
