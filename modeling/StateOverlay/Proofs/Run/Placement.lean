/-
Where a run puts its products.

The paths of the overlay, the cleanup and the companion are made from the header's path and three
names.  Whatever dots and slashes the header's path is written with, they denote entries of the
directory that holds the header, as do the inclusions of them, which give the names alone:

* `Procedure.accesses` — what a procedure asks of the files, in order;
* `accesses_plan` — planning reads the header, tests the companion, and reads it if it is there;
* `LeadsTo` — what a line includes, seen from the directory of its file;
* `outputs_beside_header` — all that a plan reads and writes is in one directory.
-/
import StateOverlay.Proofs.Files.Siblings
import StateOverlay.Proofs.Run.Restart

namespace StateOverlay

/-! ### What is asked of the files -/

/-- What a step asks of the file at a path. -/
inductive Access where
  | read (path : Path)
  | isThere (path : Path)
  | write (path : Path)
deriving DecidableEq

namespace Procedure

variable {α β : Type}

/-- What a procedure asks of the files of a tree, in order. -/
def accesses : Procedure α → Directory → List Access
  | done _, _ => []
  | fail _, _ => []
  | report _ next, tree => next.accesses tree
  | read path next, tree => .read path :: (next (tree.read path)).accesses tree
  | isThere path next, tree => .isThere path :: (next (tree.isThere path)).accesses tree
  | write path contents next, tree =>
    .write path ::
      match tree.write path contents with
      | .ok written => (next (.ok ())).accesses written
      | .error fault => (next (.error fault)).accesses tree

/-- A continued procedure asks what its first part does, and then what its second part does. -/
theorem accesses_bind (procedure : Procedure α) (f : α → Procedure β) (tree : Directory) :
    (procedure.bind f).accesses tree =
      procedure.accesses tree ++
        match (procedure.run tree).result with
        | .ok value => (f value).accesses (procedure.run tree).tree
        | .error _ => [] := by
  induction procedure generalizing tree with
  | done value => rfl
  | fail error => rfl
  | report event next ih => exact ih tree
  | read path next ih => exact congrArg (Access.read path :: ·) (ih _ tree)
  | isThere path next ih => exact congrArg (Access.isThere path :: ·) (ih _ tree)
  | write path contents next ih =>
    rw [Procedure.bind, accesses, accesses, run]
    cases tree.write path contents with
    | ok written => exact congrArg (Access.write path :: ·) (ih _ written)
    | error fault => exact congrArg (Access.write path :: ·) (ih _ tree)

theorem accesses_reportAll (events : List Event) (tree : Directory) :
    (reportAll events).accesses tree = [] := by
  induction events with
  | nil => rfl
  | cons event events ih => exact ih

theorem accesses_readFile (path : Path) (tree : Directory) :
    (readFile path).accesses tree = [.read path] := by
  rw [readFile, accesses]
  cases tree.read path <;> rfl

end Procedure

open Procedure

/-- Planning for a companion tests its path, and reads it if something is there. -/
theorem accesses_planCompanion (config : Config) (path : Path) (tree : Directory) :
    (planCompanion config path).accesses tree =
      .isThere path :: if tree.isThere path then [.read path] else [] := by
  rw [planCompanion, accesses]
  cases tree.isThere path with
  | false => rfl
  | true =>
    simp only [bind_eq, accesses_bind, accesses_readFile, accesses_reportAll, result_readFile,
      result_reportAll, (readOnly_readFile path).tree_run, if_true]
    cases tree.read path with
    | error fault => rfl
    | ok source =>
      dsimp only
      cases patch config.cleanupInclude config.companionMarker source <;> rfl

/-- Planning reads the header, tests the companion, and reads that if it is there. -/
theorem accesses_plan {config : Config} {dryRun : Bool} {header : Path} {source : Text}
    {tree : Directory}
    (hread : tree.read header = .ok source) :
    (plan config dryRun header).accesses tree =
      .read header :: .isThere (companionPath config header) ::
        if tree.isThere (companionPath config header) then
          [.read (companionPath config header)]
        else [] := by
  rw [plan]
  simp only [bind_eq, accesses_bind, accesses_readFile, accesses_reportAll, result_readFile, hread,
    (readOnly_readFile header).tree_run, result_reportAll, (readOnly_reportAll _).tree_run,
    accesses_planCompanion, List.nil_append]
  rw [companionPath]
  cases ((planCompanion config (besidePath header config.companionFile)).run tree).result <;>
    simp [accesses]

/-! ### One directory -/

/-- What a line includes, seen from the directory of its file, is at a place. -/
def LeadsTo (tree : Directory) (line : Text) (directory place : Place) : Prop :=
  ∃ path : Text, line = includeLine path ∧ Path.isAbsolute path.bytes = false ∧
    tree.follow directory (Path.steps path.bytes) = (place, [])

/-- The inclusion of a name leads to the entry of that name. -/
theorem leadsTo_includeLine {tree : Directory} {directory : Place} {file : Text}
    (hdirectory : tree.isDirectory directory = true) (hfile : Path.IsEntryName file) :
    LeadsTo tree (includeLine file) directory (directory ++ [file.bytes]) := by
  refine ⟨file, rfl, Path.isAbsolute_eq_false hfile.slash_not_mem, ?_⟩
  rw [Path.steps_eq_singleton hfile.bytes_ne_nil hfile.slash_not_mem, Directory.follow_cons,
    if_pos hdirectory, Path.next, if_neg hfile.bytes_ne_dot, if_neg hfile.bytes_ne_dotDot]
  rfl

/-- The header that is generated holds the inclusion of the overlay. -/
theorem overlayInclude_infix_header (config : Config) (scan : Scan) :
    config.overlayInclude <:+: (Overlay.generate config scan).header :=
  infix_intercalate (List.mem_append_right _ List.mem_cons_self)

/-- **All that a plan reads and writes is in the directory of the header**, whatever dots and
slashes the header's path is written with: the path of the header denotes the file that was read,
those of the overlay, the cleanup and the companion denote the entries of their names beside it, and
the inclusions of overlay and cleanup lead there from the files of that directory.  Of the header's
path nothing is asked but that planning succeeds and that its last step does not lead upwards. -/
theorem outputs_beside_header {config : Config} {dryRun : Bool} {header : Path} {tree : Directory}
    {planned : Plan} (hup : (Path.steps header).getLast? ≠ some Path.dotDot)
    (hoverlay : Path.IsEntryName config.overlayFile)
    (hcleanup : Path.IsEntryName config.cleanupFile)
    (hcompanion : Path.IsEntryName config.companionFile)
    (hplan : ((plan config dryRun header).run tree).result = .ok planned) :
    ∃ directory name source overlay cleanup companion patched,
      let generated := Overlay.generate config (Scan.ofSource config source)
      let overlayName := config.overlayFile.bytes
      let cleanupName := config.cleanupFile.bytes
      (Denotes tree header directory name ∧
        tree.node? (directory ++ [name]) = some (.file (.text source))) ∧
      Denotes tree overlay directory overlayName ∧
      Denotes tree cleanup directory cleanupName ∧
      Denotes tree companion directory config.companionFile.bytes ∧
      (plan config dryRun header).accesses tree =
        [.read header, .isThere companion] ++
          (if tree.isThere companion then [.read companion] else []) ∧
      planned.writes =
        (if planned.summary.alreadyTransformed then []
          else [{ path := overlay, contents := generated.overlay },
            { path := cleanup, contents := generated.cleanup },
            { path := header, contents := generated.header }]) ++ patched ∧
      (config.overlayInclude <:+: generated.header ∧
        LeadsTo tree config.overlayInclude directory (directory ++ [overlayName])) ∧
      (∀ file ∈ patched, file.path = companion ∧ config.cleanupInclude <:+: file.contents) ∧
      LeadsTo tree config.cleanupInclude directory (directory ++ [cleanupName]) := by
  obtain ⟨source, status, patched, hread, hpatched, rfl⟩ := result_plan_eq_ok_iff.mp hplan
  obtain ⟨directory, name, hgoes, hnode⟩ := exists_goesTo_of_read hread hup
  have hbeside : ∀ {file : Text}, Path.IsEntryName file →
      Denotes tree (besidePath header file) directory file.bytes :=
    fun hfile => (hgoes.sibling hfile).denotes
  refine ⟨directory, name, source, _, _, companionPath config header, patched,
    ⟨hgoes.denotes, hnode⟩, hbeside hoverlay, hbeside hcleanup, hbeside hcompanion,
    accesses_plan hread, rfl,
    ⟨overlayInclude_infix_header config _, leadsTo_includeLine hgoes.isDirectory hoverlay⟩, ?_,
    leadsTo_includeLine hgoes.isDirectory hcleanup⟩
  intro file hfile
  rcases hpatched.eq_nil_or_eq_singleton with rfl | ⟨found, rfl, hpath, hinclusion⟩
  · exact absurd hfile List.not_mem_nil
  · rw [List.mem_singleton.mp hfile]
    exact ⟨hpath, hinclusion⟩

/-- A header whose path is written with more dots and slashes than it needs. -/
theorem outputs_beside_header_of_redundant_path :
    let config : Config := {}
    let header := Text.bytes ".//d/././/h.h".toList
    let d := Text.bytes "d".toList
    let h := Text.bytes "h.h".toList
    let tree : Directory :=
      { entries := [([d], .directory), ([d, h], .file (.text "static int x;\n".toList)),
          ([d, config.companionFile.bytes],
            .file (.text "static void COBOLANA_module_init".toList))] }
    let overlay := Text.bytes ".//d/cobolana_locals_overlay.h".toList
    let cleanup := Text.bytes ".//d/cobolana_locals_cleanup.h".toList
    let companion := Text.bytes ".//d/cobolana_patched.c".toList
    let paths := [overlay, cleanup, header, companion]
    (∃ planned, ((plan config false header).run tree).result = .ok planned ∧
      planned.paths = paths) ∧
    Denotes tree header [d] h ∧
    Denotes tree overlay [d] config.overlayFile.bytes ∧
    Denotes tree companion [d] config.companionFile.bytes := by
  intro config header d h tree overlay cleanup companion paths
  have hresult : ((plan config false header).run tree).result.toOption.map
      (fun planned => (planned.summary.alreadyTransformed, planned.paths)) =
        some (false, paths) := by
    decide +kernel
  have hup : (Path.steps header).getLast? ≠ some Path.dotDot := by decide +kernel
  have hoverlay : Path.IsEntryName config.overlayFile := by decide
  have hcleanup : Path.IsEntryName config.cleanupFile := by decide
  have hcompanion : Path.IsEntryName config.companionFile := by decide
  cases hplan : ((plan config false header).run tree).result with
  | error error =>
    rw [hplan] at hresult
    cases hresult
  | ok planned =>
    rw [hplan] at hresult
    obtain ⟨hnew, hpaths⟩ := Prod.mk.inj (Option.some.inj hresult)
    obtain ⟨directory, name, source, first, second, last, patched, ⟨hheader, _⟩, hbeside, _,
      hbehind, _, hwrites, _, hpatched, _⟩ :=
      outputs_beside_header hup hoverlay hcleanup hcompanion hplan
    -- the directory and the name are read off the place where the header is
    have hplace : tree.reach header = [d] ++ [h] := by decide +kernel
    obtain ⟨rfl, hname⟩ := List.append_inj' (hheader.reach_eq.symm.trans hplace) rfl
    obtain rfl := List.singleton_inj.mp hname
    -- the overlay is the first of the planned paths, the companion the last
    have hlist : first :: second :: header :: patched.map PlannedWrite.path = paths := by
      rw [← hpaths, Plan.paths, hwrites, hnew, if_neg Bool.false_ne_true, List.map_append]
      rfl
    obtain ⟨hfirst, hrest⟩ := List.cons.inj hlist
    obtain ⟨file, hfile, hlast⟩ := List.map_eq_singleton_iff.mp
      (List.cons.inj (List.cons.inj hrest).2).2
    obtain rfl : file.path = last := (hpatched file (hfile ▸ List.mem_singleton_self file)).1
    exact ⟨⟨planned, rfl, hpaths⟩, hheader, hfirst ▸ hbeside, hlast ▸ hbehind⟩

end StateOverlay
