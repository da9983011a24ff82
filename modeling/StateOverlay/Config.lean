/-
The names a state overlay is made of.

A configuration names the state container and what is done with it: how declarations of the
scanned header are told apart, which macros are shadowed, and which files take part in a run.
The defaults are those of the COBOL runtime library; any of them can be overridden.
-/
import StateOverlay.Text.Basic

namespace StateOverlay

/-- The names of the three fields of a record descriptor. -/
structure RecordFields where
  size : Text := "size".toList
  data : Text := "data".toList
  attr : Text := "attr".toList
deriving DecidableEq, Inhabited

/-- The field names in the order in which a record initializer gives their values. -/
def RecordFields.positional (fields : RecordFields) : List Text :=
  [fields.size, fields.data, fields.attr]

/-- The names agreed on between a generated overlay and the runtime that defines the container. -/
structure Config where
  /-- The type of the state container. -/
  stateType : Text := "COBOLState".toList
  /-- The container instance that the overlay declares. -/
  stateInstance : Text := "cobol_state".toList
  /-- The function that zeroes the container. -/
  stateInitFn : Text := "cobol_state_init".toList
  /-- The storage qualifier that declarations of the header begin with. -/
  storageQualifier : Text := "static".toList
  /-- The type tag of record declarations. -/
  recordTypeTag : Text := "cob_field".toList
  recordFields : RecordFields := {}
  /-- The identifier that gets a plain alias instead of a macro. -/
  paramArrayIdent : Text := "cob_procedure_params".toList
  /-- The type the alias is declared with. -/
  paramArrayType : Text := "cob_field **".toList
  /-- The macro through which a module is entered. -/
  entryMacro : Text := "cob_module_global_enter".toList
  entryMacroParams : List Text :=
    ["module_ptr", "glob_ptr", "auto_init", "entry", "check"].map String.toList
  /-- What is added to the entry macro's name to name its variant with the container. -/
  entryStateSuffix : Text := "_state".toList
  overlayFile : Text := "cobolana_locals_overlay.h".toList
  overlayGuard : Text := "COBOLANA_LOCALS_OVERLAY_H".toList
  cleanupFile : Text := "cobolana_locals_cleanup.h".toList
  cleanupGuard : Text := "COBOLANA_LOCALS_OVERLAY_CLEANUP_H".toList
  /-- The source next to the header that includes it. -/
  companionFile : Text := "cobolana_patched.c".toList
  /-- The text of the companion that the cleanup inclusion goes in front of. -/
  companionMarker : Text := "static void COBOLANA_module_init".toList
deriving DecidableEq, Inhabited

/-- The directive that includes a file. -/
def includeLine (file : Text) : Text := "#include \"".toList ++ file ++ ['"']

namespace Config

/-- The line that includes the overlay. -/
def overlayInclude (config : Config) : Text := includeLine config.overlayFile

/-- The line that includes the cleanup. -/
def cleanupInclude (config : Config) : Text := includeLine config.cleanupFile

/-- An identifier as a field of the container. -/
def qualified (config : Config) (name : Text) : Text := config.stateInstance ++ ['.'] ++ name

/-- The operation that enters a module with the container. -/
def entryStateFn (config : Config) : Text := config.entryMacro ++ config.entryStateSuffix

end Config

end StateOverlay
