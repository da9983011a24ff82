/-
Patching the companion of a header.

The companion includes the header near its top and defines the module's initializer further down.
The inclusion of the cleanup goes in front of the marker that begins that definition, so that the
shadows end before it.
-/
import StateOverlay.Text.Basic

namespace StateOverlay

/-- What patching a companion comes to. -/
inductive PatchOutcome where
  /-- The inclusion was inserted; holds the new source. -/
  | inserted (source : Text)
  /-- The inclusion is there already. -/
  | alreadyPatched
  /-- The marker is nowhere in the source. -/
  | markerMissing
deriving DecidableEq

/-- What a run made of the companion of its header. -/
inductive CompanionStatus where
  | patched
  | alreadyPatched
  /-- There is no companion. -/
  | missing
deriving DecidableEq

/-- Inserts a line and an empty line in front of the first marker, unless the line occurs in the
source. -/
def patch (line marker source : Text) : PatchOutcome :=
  if Text.occursIn line source then .alreadyPatched
  else
    match Text.cutAt? marker source with
    | some (before, rest) => .inserted (before ++ line ++ ['\n', '\n'] ++ rest)
    | none => .markerMissing

end StateOverlay
