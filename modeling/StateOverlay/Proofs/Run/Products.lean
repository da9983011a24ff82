/-
What a run that succeeds leaves at the paths of its products.

The overlay, the cleanup, the header and the companion are written in this order, each over whatever
stands at its path.  Two of these paths can lead to one file: a configuration is free to give two
products one name, with dots and slashes as it likes, and a header can have the name of a product.
Nothing asks whether they do, so that the last product written to a file is the one that stays:

* `LastTo` — the last of some files that is written to the file that a path leads to;
* `LastTo.writeNodes_eq`, `Written.read_eq` — that one is what stands there in the end;
* `products_in_place` — so a product is in place unless a later one was written over it;
* `header_named_like_overlay` — the overlay is not, where the header has its name.
-/
import StateOverlay.Proofs.Run.Restart

namespace StateOverlay

open Procedure

/-- The last of some files that is written to the file that a path leads to. -/
def LastTo (tree : Directory) (files : List PlannedWrite) (path : Path) (last : PlannedWrite) :
    Prop :=
  tree.SameFile last.path path ∧
    ∃ before after, files = before ++ last :: after ∧
      ∀ later ∈ after, ¬ tree.SameFile later.path path

section

variable {tree : Directory} {files : List PlannedWrite} {path : Path} {last : PlannedWrite}

/-- Where a file is written there is a last one. -/
theorem exists_lastTo (h : ∃ file ∈ files, tree.SameFile file.path path) :
    ∃ last, LastTo tree files path last := by
  induction files with
  | nil =>
    obtain ⟨_, hfile, _⟩ := h
    exact absurd hfile List.not_mem_nil
  | cons first files ih =>
    by_cases hlater : ∃ file ∈ files, tree.SameFile file.path path
    · obtain ⟨last, hsame, before, after, rfl, hafter⟩ := ih hlater
      exact ⟨last, hsame, first :: before, after, rfl, hafter⟩
    · -- nothing behind the first file goes where it goes
      obtain ⟨file, hfile, hsame⟩ := h
      rcases List.mem_cons.mp hfile with rfl | hfile
      · exact ⟨file, hsame, [], files, rfl, fun later hmem hsame => hlater ⟨later, hmem, hsame⟩⟩
      · exact absurd ⟨file, hfile, hsame⟩ hlater

/-- What stands where a path leads in the end is the last file written there. -/
theorem LastTo.writeNodes_eq (h : LastTo tree files path last) {place : Place}
    (hplace : tree.place? path = some place) (view : Place → Option Node) :
    writeNodes tree view files place = some (.file (.text last.contents)) := by
  obtain ⟨hsame, before, after, rfl, hafter⟩ := h
  have hlast : tree.place? last.path = some place := hsame.2.trans hplace
  have hother : ∀ later ∈ after, tree.place? later.path ≠ some place :=
    fun later hlater hleads => hafter later hlater (Directory.sameFile_of_place? hleads hplace)
  rw [writeNodes_append, writeNodes_cons, writeNodes_of_not_mem hother, writeNode, if_pos hlast]

/-- A file that was written reads as the last one that was written over it, and there is one. -/
theorem Written.read_eq {final : Directory} {file : PlannedWrite} (h : Written tree files final)
    (hfile : file ∈ files) :
    (∃ last, LastTo tree files file.path last) ∧
      ∀ last, LastTo tree files file.path last → final.read file.path = .ok last.contents := by
  obtain ⟨place, hwritable⟩ := h.writable file hfile
  have hplace := hwritable.leads
  refine ⟨exists_lastTo ⟨file, hfile, Directory.sameFile_of_place? hplace hplace⟩, ?_⟩
  intro last hlast
  refine Directory.read_of_writable (Directory.writable_congr h.sameDirectories hwritable) ?_
  rw [h.node?_eq]
  exact hlast.writeNodes_eq hplace _

end

/-- A run that succeeds has planned all that it wrote, and its account is that of the plan. -/
theorem exists_plan_of_ok {config : Config} {header : Path} {tree : Directory} {summary : Summary}
    (hok : ((transform config false header).run tree).result = .ok summary) :
    ∃ planned, ((plan config false header).run tree).result = .ok planned ∧
      summary = { planned.summary with filesWritten := planned.paths } := by
  cases hplan : ((plan config false header).run tree).result with
  | error error =>
    rw [(run_transform_of_error hplan).2] at hok
    cases hok
  | ok planned =>
    refine ⟨planned, rfl, ?_⟩
    rw [(run_transform_of_ok hplan).2] at hok
    have hnone := filesWritten_of_plan hplan
    obtain ⟨k, _, _, ⟨_, hall⟩ | ⟨_, fault, _, herror⟩⟩ := exists_written_commit hnone tree
    · exact Except.ok.inj (hok.symm.trans hall)
    · cases hok.symm.trans herror

/-- **A run that succeeds leaves its products in place**, each of them unless a later one was
written to the same file: what is at the path of a product is the last product written there. -/
theorem products_in_place {config : Config} {header : Path} {tree : Directory} {summary : Summary}
    (hok : ((transform config false header).run tree).result = .ok summary)
    (hnew : summary.alreadyTransformed = false) :
    ∃ source patched, tree.read header = .ok source ∧
      CompanionPlan config tree (companionPath config header) summary.companion patched ∧
      let final := ((transform config false header).run tree).tree
      let generated := Overlay.generate config (Scan.ofSource config source)
      let products : List PlannedWrite :=
        [{ path := besidePath header config.overlayFile, contents := generated.overlay },
          { path := besidePath header config.cleanupFile, contents := generated.cleanup },
          { path := header, contents := generated.header }] ++ patched
      ∀ product ∈ products,
        (∃ last, LastTo tree products product.path last) ∧
        ∀ last, LastTo tree products product.path last →
          final.read product.path = .ok last.contents := by
  obtain ⟨planned, hplan, rfl⟩ := exists_plan_of_ok hok
  have hwritten := written_of_ok hplan hok
  obtain ⟨source, companion, patched, hread, hcompanion, rfl⟩ := result_plan_eq_ok_iff.mp hplan
  refine ⟨source, patched, hread, hcompanion, ?_⟩
  intro final generated products product hproduct
  rw [planFor, plannedTexts_of_not_transformed hnew] at hwritten
  exact hwritten.read_eq hproduct

/-- A configuration that leads the overlay and the cleanup to one file: the cleanup stays. -/
theorem products_in_place_one_file :
    let config : Config := { cleanupFile := "../gen//cobolana_locals_overlay.h".toList }
    let generatedFiles := Text.bytes "gen".toList
    let header := Text.bytes "gen/h.h".toList
    let source := "static int x;\n".toList
    let companion := "static void COBOLANA_module_init".toList
    let tree : Directory :=
      { entries := [([generatedFiles], .directory),
          ([generatedFiles, Text.bytes "h.h".toList], .file (.text source)),
          ([generatedFiles, config.companionFile.bytes], .file (.text companion))] }
    let final := ((transform config false header).run tree).tree
    let generated := Overlay.generate config (Scan.ofSource config source)
    (∃ summary, ((transform config false header).run tree).result = .ok summary ∧
        summary.alreadyTransformed = false ∧ summary.companion = .patched) ∧
      final.read (Text.bytes "gen/cobolana_locals_overlay.h".toList) = .ok generated.cleanup ∧
      final.read header = .ok generated.header ∧
      final.read (Text.bytes "gen/cobolana_patched.c".toList) =
        .ok (config.cleanupInclude ++ ['\n', '\n'] ++ companion) := by
  intro config generatedFiles header source companion tree final generated
  have hresult : (((transform config false header).run tree).result.toOption.map
      fun summary => (summary.alreadyTransformed, summary.companion)) = some (false, .patched) := by
    decide +kernel
  cases hok : ((transform config false header).run tree).result with
  | error error =>
    rw [hok] at hresult
    cases hresult
  | ok summary =>
    rw [hok] at hresult
    obtain ⟨hnew, hstatus⟩ := Prod.mk.inj (Option.some.inj hresult)
    obtain ⟨_, patched, hread, hcompanion, hplace⟩ := products_in_place hok hnew
    have hsource : tree.read header = .ok source := by decide +kernel
    cases hsource.symm.trans hread
    rw [hstatus] at hcompanion
    cases hcompanion with
    | patched _ hread hpatch =>
      have hbehind : tree.read (companionPath config header) = .ok companion := by decide +kernel
      cases hbehind.symm.trans hread
      have hinserted : patch config.cleanupInclude config.companionMarker companion =
          .inserted (config.cleanupInclude ++ ['\n', '\n'] ++ companion) := by decide +kernel
      cases hinserted.symm.trans hpatch
      refine ⟨⟨summary, rfl, hnew, hstatus⟩, ?_, ?_, ?_⟩
      · -- the cleanup is the second file that is written where the first one is
        refine (hplace _ List.mem_cons_self).2 _ ⟨by decide +kernel, [_], _, rfl, ?_⟩
        exact List.forall_mem_cons.mpr
          ⟨by decide +kernel, List.forall_mem_singleton.mpr (by decide +kernel)⟩
      · refine (hplace ⟨header, generated.header⟩ (.tail _ (.tail _ (.head _)))).2 _
          ⟨by decide +kernel, [_, _], _, rfl, ?_⟩
        exact List.forall_mem_singleton.mpr (by decide +kernel)
      · have hproduct := hplace
          ⟨companionPath config header, config.cleanupInclude ++ ['\n', '\n'] ++ companion⟩
          (.tail _ (.tail _ (.tail _ (.head _))))
        refine hproduct.2 _ ⟨by decide +kernel, [_, _, _], _, rfl, ?_⟩
        exact List.forall_mem_nil _

/-- A header with the name of the overlay is written over it. -/
theorem header_named_like_overlay :
    let config : Config := {}
    let header := Text.bytes "cobolana_locals_overlay.h".toList
    let source := "static int x;\n".toList
    let tree : Directory := { entries := [([header], .file (.text source))] }
    let run := (transform config false header).run tree
    let generated := Overlay.generate config (Scan.ofSource config source)
    run.result.toOption.map Summary.alreadyTransformed = some false ∧
      besidePath header config.overlayFile = header ∧
      run.tree.read header = .ok generated.header ∧
      run.tree.read header ≠ .ok generated.overlay := by
  decide +kernel

end StateOverlay
