/-
The texts generated from the scan of a header.

* The overlay declares and initializes the state container, assigns the records field by field,
  aliases the parameter array and shadows every other relocated identifier by a macro that leads
  into the container.
* The cleanup takes the shadows back.
* The new header is the preamble and one inclusion of the overlay.

Shadows are set in code point order with the entry macro last, and taken back in the opposite order.
-/
import StateOverlay.Overlay.Fragment
import StateOverlay.Scan

namespace StateOverlay

/-- The texts generated for one header. -/
structure Overlay where
  overlay : Text
  cleanup : Text
  header : Text
  /-- The identifiers shadowed by a macro, in the order in which they are shadowed. -/
  macroIdentifiers : List Text
  /-- Whether the parameter array is relocated and so gets an alias. -/
  paramAlias : Bool
deriving DecidableEq

/-- A record value with a relocated identifier, or its address, led into the container. -/
def relocatedValue (config : Config) (scan : Scan) (value : Text) : Text :=
  if scan.isRelocated value then config.qualified value
  else
    match value with
    | '&' :: name => if scan.isRelocated name then '&' :: config.qualified name else value
    | _ => value

/-- Whether a value is a null pointer constant. -/
def isNullPointer (value : Text) : Bool := value == ['0'] || value == "NULL".toList

/-- Whether the value at a position of a record needs no assignment: it is absent, or it is a null
pointer behind the first position, which the zeroed container holds already. -/
def isLeftToInit (position : Nat) (value : Text) : Bool :=
  value.isEmpty || (decide (0 < position) && isNullPointer value)

/-- The assignments that take the place of a record initializer. -/
def recordAssignments (config : Config) (scan : Scan) (record : Record) : List Fragment :=
  (((config.recordFields.positional.zip record.rawValues).zipIdx).filter
    fun ((_, value), position) => !isLeftToInit position value).map
      fun ((field, value), _) =>
        .assignment config.stateInstance record.name field (relocatedValue config scan value)

namespace Overlay

/-- The identifiers that get a macro: all but the parameter array, in code point order. -/
def shadowed (config : Config) (scan : Scan) : List Text :=
  scan.sortedIdentifiers.filter (· != config.paramArrayIdent)

/-- The shadow of a relocated identifier. -/
def identifierShadow (config : Config) (name : Text) : Fragment :=
  .shadow name none (['('] ++ config.qualified name ++ [')'])

/-- The shadow of the entry macro, which passes the container on. -/
def entryShadow (config : Config) : Fragment :=
  let arguments := ('&' :: config.stateInstance) :: config.entryMacroParams
  .shadow config.entryMacro (some config.entryMacroParams)
    (config.entryStateFn ++ ['('] ++ [',', ' '].intercalate arguments ++ [')'])

/-- The alias of the parameter array. -/
def paramAliasFragment (config : Config) : Fragment :=
  .alias config.paramArrayType config.paramArrayIdent (config.qualified config.paramArrayIdent)

/-- The fragments of the overlay, an empty line being one too. -/
def overlayFragments (config : Config) (scan : Scan) : List Fragment :=
  let container := config.stateInstance
  [.guardOpen config.overlayGuard, .verbatim [],
    .verbatim (config.stateType ++ [' '] ++ container ++ [';']),
    .verbatim (config.stateInitFn ++ "(&".toList ++ container ++ ");".toList)] ++
  scan.records.flatMap (recordAssignments config scan) ++
  (if scan.isRelocated config.paramArrayIdent then [paramAliasFragment config, .verbatim []]
    else []) ++
  [.verbatim []] ++
  (shadowed config scan).flatMap (fun name => [identifierShadow config name, .verbatim []]) ++
  [entryShadow config, .verbatim [], .guardClose config.overlayGuard, .verbatim []]

/-- The fragments of the cleanup. -/
def cleanupFragments (config : Config) (scan : Scan) : List Fragment :=
  [.guardOpen config.cleanupGuard, .verbatim [], .restore config.entryMacro, .verbatim []] ++
  (shadowed config scan).reverse.map .restore ++
  [.verbatim [], .guardClose config.cleanupGuard, .verbatim []]

/-- The lines of the new header. -/
def headerLines (config : Config) (scan : Scan) : List Text :=
  scan.preamble ++ [config.overlayInclude, []]

/-- Generates the texts for a scanned header. -/
def generate (config : Config) (scan : Scan) : Overlay :=
  { overlay := Text.unlines ((overlayFragments config scan).map Fragment.render)
    cleanup := Text.unlines ((cleanupFragments config scan).map Fragment.render)
    header := Text.unlines (headerLines config scan)
    macroIdentifiers := shadowed config scan
    paramAlias := scan.isRelocated config.paramArrayIdent }

end Overlay

end StateOverlay
