/-
The command on the files of the machine.

Everything the command does is a procedure; this module carries it out, prints its log while it goes
on, and hands its exit code to the system.
-/
import StateOverlay.CommandLine

namespace StateOverlay

/-- A fault of the system as the fault of a file. -/
def FileFault.ofSystem (error : IO.Error) : FileFault :=
  -- some calls hand the number of the fault back with its sign changed
  let ofNumber := fun (code : UInt32) (details : String) =>
    let number := if code < 4096 then code else 0 - code
    if number = 20 then .notDirectory
    else if number = 21 then .isDirectory
    else if number = 36 then .nameTooLong
    else .other details.toList
  match error with
  | .noFileOrDirectory .. => .notFound
  | .inappropriateType _ code details => ofNumber code details
  | .invalidArgument _ code details => ofNumber code details
  | error => .other error.toString.toList

/-- Asks the system about a path, unless the path is at fault by itself.  The system is asked with
texts only. -/
def askSystem {α : Type} (path : Path) (ask : String → IO (Except FileFault α)) :
    IO (Except FileFault α) :=
  match pathFault? path, Bytes.text? path with
  | some fault, _ => pure (.error fault)
  | none, none => pure (.error (.other "the path is no text".toList))
  | none, some path =>
    try ask (String.ofList path)
    catch error => pure (.error (FileFault.ofSystem error))

/-- Carries out a procedure on the files of the machine. -/
def Procedure.perform {α : Type} (filter : LogFilter) : Procedure α → IO (Except RunError α)
  | .done value => pure (.ok value)
  | .fail error => pure (.error error)
  | .report event next => do
    if filter.shows event then
      IO.eprintln (String.ofList event.render)
    next.perform filter
  | .read path next => do
    let answer ← askSystem path fun path => do
      let bytes ← IO.FS.readBinFile path
      pure (Content.ofBytes bytes.toList).read
    (next answer).perform filter
  | .isThere path next => do
    let answer ← askSystem path fun path => do
      let _ ← IO.FS.realPath path
      pure (.ok ())
    (next answer.isOk).perform filter
  | .write path contents next => do
    let answer ← askSystem path fun path => do
      IO.FS.writeFile path (String.ofList contents)
      pure (.ok ())
    (next answer).perform filter

namespace CommandLine

/-- Prints what the command leaves, and returns its exit code. -/
def finish (output : Output) : IO UInt32 := do
  IO.print (String.ofList output.stdout)
  IO.eprint (String.ofList output.stderr)
  return output.exitCode.toUInt32

end CommandLine

end StateOverlay

open StateOverlay CommandLine in
/-- Runs the command. -/
def main (arguments : List String) : IO UInt32 := do
  match parse (arguments.map fun argument => Text.bytes argument.toList) with
  | .ok (.run options) =>
    let setting ← IO.getEnv "RUST_LOG"
    let (filter, ignored) := logSetup (setting.map String.toList) options
    IO.eprint (String.ofList (linesText ignored))
    -- declarations are matched directly, and there is no pattern that could fail to compile
    match ← (command (fun _ => .ok ()) options).perform filter with
    | .ok output => finish output
    | .error error => finish (failure none error)
  | request => finish (answerWithoutRun request)
