/-
Transforming a header and its companion.

A run has two phases.  Planning reads the header and its companion and computes every file the run
is to write; all that can be wrong with them comes out here, before any file is touched.  Committing
writes the planned files in the order overlay, cleanup, header, companion.

A header that holds nothing but the overlay inclusion of an earlier run keeps its overlay: only its
companion is looked at.
-/
import StateOverlay.Config.Reader
import StateOverlay.Run.Procedure

namespace StateOverlay

/-- A file to write. -/
structure PlannedWrite where
  path : Path
  contents : Text
deriving DecidableEq

/-- The account of a run. -/
structure Summary where
  header : Path
  /-- The relocated identifiers in code point order. -/
  relocated : List Text
  records : List Record
  paramAlias : Bool
  skipped : List SkippedLine
  companion : CompanionStatus
  filesWritten : List Path := []
  dryRun : Bool
  alreadyTransformed : Bool
deriving DecidableEq

/-- All that a run is to write. -/
structure Plan where
  writes : List PlannedWrite
  summary : Summary
deriving DecidableEq

namespace Plan

/-- The paths of the planned files, in order. -/
def paths (plan : Plan) : List Path := plan.writes.map PlannedWrite.path

end Plan

open Procedure

/-- The path of a file beside a header. -/
def besidePath (header : Path) (file : Text) : Path :=
  Path.join (Path.parent header) (Text.bytes file)

/-- The files generated from a scan, in the order in which they are written; none for a header that
is transformed already. -/
def plannedTexts (config : Config) (header : Path) (scan : Scan) : List PlannedWrite :=
  if scan.alreadyTransformed then []
  else
    let overlay := Overlay.generate config scan
    [{ path := besidePath header config.overlayFile, contents := overlay.overlay },
      { path := besidePath header config.cleanupFile, contents := overlay.cleanup },
      { path := header, contents := overlay.header }]

/-- What is to be done about the companion at a path: its status, and the patched source to write if
there is one. -/
def planCompanion (config : Config) (path : Path) :
    Procedure (CompanionStatus × List PlannedWrite) :=
  isThere path fun
    | false => report (.noCompanion path) (done (.missing, []))
    | true => do
      let source ← readFile path
      let outcome := patch config.cleanupInclude config.companionMarker source
      reportAll (patchEvents config.cleanupInclude outcome)
      match outcome with
      | .inserted contents => done (.patched, [{ path, contents }])
      | .alreadyPatched => done (.alreadyPatched, [])
      | .markerMissing => fail (.markerNotFound config.companionMarker path)

/-- Plans a run without writing anything. -/
def plan (config : Config) (dryRun : Bool) (header : Path) : Procedure Plan := do
  let source ← readFile header
  let scan := Scan.ofSource config source
  reportAll (scanEvents config source)
  reportAll (generateEvents config scan)
  reportAll (if scan.alreadyTransformed then [.overlayKept header] else [])
  let (companion, patched) ← planCompanion config (besidePath header config.companionFile)
  report (.planned header scan.identifiers.length scan.records.length scan.skipped.length companion)
    (done
      { writes := plannedTexts config header scan ++ patched
        summary :=
          { header
            relocated := scan.sortedIdentifiers
            records := scan.records
            paramAlias := scan.isRelocated config.paramArrayIdent
            skipped := scan.skipped
            companion
            dryRun
            alreadyTransformed := scan.alreadyTransformed } })

/-- Writes some files in order: the paths written before, and behind them those of the files. -/
def commitWrites (written : List Path) : List PlannedWrite → Procedure (List Path)
  | [] => done written
  | file :: files => do
    writeFile file.path file.contents
    report (.wrote file.path (Text.utf8Size file.contents))
      (commitWrites (written ++ [file.path]) files)

/-- Writes the files of a plan. -/
def commit (plan : Plan) : Procedure Summary := do
  let written ← commitWrites plan.summary.filesWritten plan.writes
  report (.committed written.length) (done { plan.summary with filesWritten := written })

/-- Plans a run and, unless it is a dry one, commits it. -/
def transform (config : Config) (dryRun : Bool) (header : Path) : Procedure Summary := do
  let plan ← plan config dryRun header
  if dryRun then report (.dryRun plan.writes.length) (done plan.summary) else commit plan

/-- Loads a configuration from a file. -/
def loadConfig (path : Path) : Procedure Config := do
  let source ← readFile path
  match Config.ofJson source with
  | .ok config => report (.configLoaded path) (done config)
  | .error fault => fail (.config path fault.problem (fault.position source))

/-- Makes a configuration ready for runs.  That fails if its patterns cannot be compiled; `compile`
says whether they can, and why not. -/
def prepare (compile : Config → Except Text Unit) (config : Config) : Procedure Config :=
  match compile config with
  | .ok () => done config
  | .error reason => fail (.pattern reason)

end StateOverlay
