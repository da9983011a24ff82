/-
Which events a log shows.

A filter is a list of directives.  Of those that apply to an event the most special one decides, and
of two that are equally special the last one.  An event that no directive applies to is not shown.
-/
import StateOverlay.Log.Directive

namespace StateOverlay

/-- The directives of a filter. -/
abbrev LogFilter := List Directive

namespace LogFilter

/-- The words between commas that a filter is read from. -/
def words (setting : Text) : List Text := (setting.splitOn ',').filter (!·.isEmpty)

/-- The filter of a setting.  Without any directive it shows nothing. -/
def ofSetting (setting : Text) : LogFilter :=
  (words setting).filterMap fun word =>
    match Directive.ofWord word with
    | .ok directive => directive
    | .error _ => none

/-- The words of a setting that are no directives, and why. -/
def ignoredWords (setting : Text) : List (Text × DirectiveFault) :=
  (words setting).filterMap fun word =>
    match Directive.ofWord word with
    | .ok _ => none
    | .error fault => some (word, fault)

/-- The filter where nothing is set: the library at `severity`. -/
def standard (severity : Severity) : LogFilter :=
  [{ target := "locals_core".toList, severity := some severity }]

/-- The directive that decides on an event. -/
def deciding? (filter : LogFilter) (event : Event) : Option Directive :=
  (filter.filter (·.appliesTo event)).foldl (fun best directive =>
    match best with
    | some found => if found.isBelow directive then some directive else best
    | none => some directive) none

/-- Whether a filter shows an event. -/
def shows (filter : LogFilter) (event : Event) : Bool :=
  match filter.deciding? event with
  | some { severity := some severity, .. } => event.severity.rank ≤ severity.rank
  | _ => false

end LogFilter

end StateOverlay
