/-
Configurations as JSON texts.

A configuration text gives some of the fields of a configuration, and the rest keep their defaults;
the record fields are such a structure inside it.
-/
import StateOverlay.Config
import StateOverlay.Json.Reader

namespace StateOverlay

open Json

/-- The fields of the record field names. -/
def RecordFields.fields : List (FieldReader RecordFields) :=
  [.text "size" fun names size => { names with size },
    .text "data" fun names data => { names with data },
    .text "attr" fun names attr => { names with attr }]

/-- The reader of the record field names. -/
def RecordFields.reader : Reader RecordFields :=
  Reader.record "struct RecordFields".toList RecordFields.fields {}

namespace Config

/-- The fields of a configuration, in their order of declaration. -/
def fields : List (FieldReader Config) :=
  [.text "state_type" fun config stateType => { config with stateType },
    .text "state_instance" fun config stateInstance => { config with stateInstance },
    .text "state_init_fn" fun config stateInitFn => { config with stateInitFn },
    .text "storage_qualifier" fun config storageQualifier => { config with storageQualifier },
    .text "record_type_tag" fun config recordTypeTag => { config with recordTypeTag },
    { key := "record_fields".toList
      read := fun config =>
        RecordFields.reader.map fun recordFields => { config with recordFields } },
    .text "param_array_ident" fun config paramArrayIdent => { config with paramArrayIdent },
    .text "param_array_type" fun config paramArrayType => { config with paramArrayType },
    .text "entry_macro" fun config entryMacro => { config with entryMacro },
    { key := "entry_macro_params".toList
      read := fun config =>
        (Reader.list Reader.text).map fun entryMacroParams => { config with entryMacroParams } },
    .text "entry_state_suffix" fun config entryStateSuffix => { config with entryStateSuffix },
    .text "overlay_file" fun config overlayFile => { config with overlayFile },
    .text "overlay_guard" fun config overlayGuard => { config with overlayGuard },
    .text "cleanup_file" fun config cleanupFile => { config with cleanupFile },
    .text "cleanup_guard" fun config cleanupGuard => { config with cleanupGuard },
    .text "companion_file" fun config companionFile => { config with companionFile },
    .text "companion_marker" fun config companionMarker => { config with companionMarker }]

/-- The reader of a configuration. -/
def reader : Reader Config := Reader.record "struct OverlayConfig".toList fields {}

/-- Reads a configuration from a whole text. -/
def ofJson (s : Text) : Except Fault Config := reader.decode s

end Config

end StateOverlay
