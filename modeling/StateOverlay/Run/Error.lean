/-
What makes a run fail.
-/
import StateOverlay.Files.Directory
import StateOverlay.Json.Fault

namespace StateOverlay

/-- The reason why a run failed. -/
inductive RunError where
  | read (path : Path) (fault : FileFault)
  | write (path : Path) (fault : FileFault)
  /-- A companion holds neither the cleanup inclusion nor the marker to put it at. -/
  | markerNotFound (marker : Text) (path : Path)
  | config (path : Path) (problem : Json.Problem) (position : Json.Position)
  /-- The patterns of a configuration cannot be compiled. -/
  | pattern (reason : Text)

namespace RunError

/-- What could not be done. -/
def headline : RunError → Text
  | .read path _ => "Failed to read ".toList ++ Bytes.shown path
  | .write path _ => "Failed to write ".toList ++ Bytes.shown path
  | .markerNotFound marker path =>
    "Failed to locate ".toList ++ marker ++ " in ".toList ++ Bytes.shown path
  | .config path _ _ => "Invalid configuration in ".toList ++ Bytes.shown path
  | .pattern _ => "Invalid declaration pattern".toList

/-- Why it could not be done, if something else is to blame. -/
def cause? : RunError → Option Text
  | .read _ fault | .write _ fault => some fault.message
  | .markerNotFound .. => none
  | .config _ problem position =>
    some (problem.message ++ " at line ".toList ++ Text.ofNat position.line ++ " column ".toList ++
      Text.ofNat position.column)
  | .pattern reason => some reason

/-- The text of an error. -/
def message (error : RunError) : Text :=
  match error.cause? with
  | some cause => error.headline ++ [':', ' '] ++ cause
  | none => error.headline

end RunError

end StateOverlay
