/-
Restart safety.

A run can be stopped behind any of its writes, and run again, any number of times.  Every tree on
the way is partway: a first part of the first plan has been written and nothing else has happened.
While the header is the old one, the next run makes the same plan again; once the header is the new
one, the next run recognises it and plans what is left.

* `Partway` — the invariant;
* `Partway.replan` — what a run plans in a partway tree;
* `Partway.stop`, `Partway.complete` — a run that is stopped leaves a partway tree, and a run that
  succeeds has written the first plan completely;
* `restart_safe` — whatever was stopped before, a run that succeeds leaves what a single run would
  have left, and later runs leave it alone.
-/
import StateOverlay.Proofs.Run.Commit
import StateOverlay.Proofs.Scan.Recognition

namespace StateOverlay

open Procedure

/-! ### Views with several files written -/

section Views

variable {initial : Directory} {place : Place}

theorem writeNodes_of_not_mem {files : List PlannedWrite} :
    ∀ {view : Place → Option Node},
      (∀ file ∈ files, initial.place? file.path ≠ some place) →
        writeNodes initial view files place = view place := by
  induction files with
  | nil => exact fun _ => rfl
  | cons file files ih =>
    intro view h
    rw [writeNodes_cons, ih fun other hother => h other (List.mem_cons_of_mem _ hother), writeNode,
      if_neg (h file List.mem_cons_self)]

/-- What some files leave depends on the view before them only where they write nothing. -/
theorem writeNodes_congr {files : List PlannedWrite} :
    ∀ {view other : Place → Option Node},
      ((∃ file ∈ files, initial.place? file.path = some place) ∨ view place = other place) →
        writeNodes initial view files place = writeNodes initial other files place := by
  induction files with
  | nil =>
    rintro view other (⟨file, hfile, _⟩ | h)
    · exact absurd hfile List.not_mem_nil
    · exact h
  | cons file files ih =>
    intro view other h
    rw [writeNodes_cons, writeNodes_cons]
    apply ih
    by_cases hplace : initial.place? file.path = some place
    · exact .inr (by rw [writeNode, writeNode, if_pos hplace, if_pos hplace])
    · rcases h with ⟨found, hfound, hleads⟩ | h
      · rcases List.mem_cons.mp hfound with rfl | hfound
        · exact absurd hleads hplace
        · exact .inl ⟨found, hfound, hleads⟩
      · exact .inr (by rw [writeNode, writeNode, if_neg hplace, if_neg hplace, h])

/-- Of files in different places each stands where it was written. -/
theorem writeNodes_of_mem {files : List PlannedWrite} {file : PlannedWrite}
    (hplace : initial.place? file.path = some place) :
    ∀ {view : Place → Option Node}, initial.AllDifferent (files.map PlannedWrite.path) →
      file ∈ files →
        writeNodes initial view files place = some (.file (.text file.contents)) := by
  induction files with
  | nil => exact fun _ hfile => absurd hfile List.not_mem_nil
  | cons first files ih =>
    intro view hdifferent hfile
    rw [List.map_cons, Directory.AllDifferent, List.pairwise_cons] at hdifferent
    rw [writeNodes_cons]
    rcases List.mem_cons.mp hfile with rfl | hfile
    · have hother : ∀ other ∈ files, initial.place? other.path ≠ some place :=
        fun other hother hleads => hdifferent.1 _ (List.mem_map_of_mem hother)
          (Directory.sameFile_of_place? hplace hleads)
      rw [writeNodes_of_not_mem hother, writeNode, if_pos hplace]
    · exact ih hdifferent.2 hfile

/-- Files written again with others behind them were written in vain the first time. -/
theorem writeNodes_append_of_subset_right {files more : List PlannedWrite}
    (h : files ⊆ more) (view : Place → Option Node) :
    writeNodes initial view (files ++ more) = writeNodes initial view more := by
  funext place
  rw [writeNodes_append]
  apply writeNodes_congr
  by_cases hplace : ∃ file ∈ more, initial.place? file.path = some place
  · exact .inl hplace
  · exact .inr (writeNodes_of_not_mem fun file hfile hleads => hplace ⟨file, h hfile, hleads⟩)

/-- Files in different places can be written again in any number. -/
theorem writeNodes_append_of_subset_left {files more : List PlannedWrite}
    (hdifferent : initial.AllDifferent (files.map PlannedWrite.path)) (h : more ⊆ files)
    (hmore : initial.AllDifferent (more.map PlannedWrite.path)) (view : Place → Option Node) :
    writeNodes initial view (files ++ more) = writeNodes initial view files := by
  funext place
  rw [writeNodes_append]
  by_cases hplace : ∃ file ∈ more, initial.place? file.path = some place
  · obtain ⟨file, hfile, hleads⟩ := hplace
    rw [writeNodes_of_mem hleads hmore hfile, writeNodes_of_mem hleads hdifferent (h hfile)]
  · exact writeNodes_of_not_mem fun file hfile hleads => hplace ⟨file, hfile, hleads⟩

theorem allDifferent_take {files : List PlannedWrite}
    (hdifferent : initial.AllDifferent (files.map PlannedWrite.path)) (k : Nat) :
    initial.AllDifferent ((files.take k).map PlannedWrite.path) :=
  List.Pairwise.sublist ((List.take_sublist k files).map _) hdifferent

/-- Two first parts of some files, one after the other, come to the longer of them. -/
theorem writeNodes_take_append_take {files : List PlannedWrite}
    (hdifferent : initial.AllDifferent (files.map PlannedWrite.path)) (j k : Nat)
    (view : Place → Option Node) :
    writeNodes initial view (files.take j ++ files.take k) =
      writeNodes initial view (files.take (max j k)) := by
  rcases Nat.le_total j k with hjk | hkj
  · rw [max_eq_right hjk]
    exact writeNodes_append_of_subset_right (List.take_subset_take_left _ hjk) view
  · rw [max_eq_left hkj]
    have hsubset := List.take_subset_take_left files hkj
    exact writeNodes_append_of_subset_left (allDifferent_take hdifferent j) hsubset
      (allDifferent_take hdifferent k) view

end Views

/-! ### Partway through a plan -/

/-- A tree in which the first `k` of some files were written, over and over perhaps, since the
initial tree, and nothing else. -/
structure Partway (initial : Directory) (files : List PlannedWrite) (k : Nat)
    (tree : Directory) : Prop where
  le : k ≤ files.length
  writable : ∀ file ∈ files.take k, ∃ place, initial.Writable file.path place
  node?_eq : tree.node? = writeNodes initial initial.node? (files.take k)
  here_eq : tree.here = initial.here

section Partway

variable {initial tree final : Directory} {files : List PlannedWrite} {j k : Nat}

theorem Partway.start (initial : Directory) (files : List PlannedWrite) :
    Partway initial files 0 initial :=
  ⟨Nat.zero_le _, fun _ hfile => absurd hfile List.not_mem_nil, rfl, rfl⟩

theorem Partway.sameDirectories (h : Partway initial files k tree) :
    Directory.SameDirectories initial tree := by
  obtain ⟨written, hwritten⟩ := exists_written h.writable
  have hnode : tree.node? = written.node? := h.node?_eq.trans hwritten.node?_eq.symm
  refine ⟨h.here_eq.symm, fun place => ?_⟩
  rw [hnode]
  exact hwritten.sameDirectories.node?_iff place

/-- A path at whose place nothing was written leads to what was there before. -/
theorem Partway.node?_eq_of_not_mem (h : Partway initial files k tree) {path : Path}
    (hpath : ∀ file ∈ files.take k, ¬ initial.SameFile file.path path) {place : Place}
    (hplace : initial.place? path = some place) : initial.node? place = tree.node? place := by
  rw [h.node?_eq, writeNodes_of_not_mem]
  exact fun file hfile hleads => hpath file hfile (Directory.sameFile_of_place? hleads hplace)

/-- A file that was not written reads as before. -/
theorem Partway.read_of_not_mem (h : Partway initial files k tree) {path : Path} {s : Text}
    (hpath : ∀ file ∈ files.take k, ¬ initial.SameFile file.path path) :
    tree.read path = .ok s ↔ initial.read path = .ok s :=
  (Directory.read_congr h.sameDirectories fun _ => h.node?_eq_of_not_mem hpath).symm

/-- A file that was written reads as it was written. -/
theorem Partway.read_of_mem (h : Partway initial files k tree)
    (hdifferent : initial.AllDifferent (files.map PlannedWrite.path)) {file : PlannedWrite}
    (hfile : file ∈ files.take k) : tree.read file.path = .ok file.contents := by
  obtain ⟨place, hwritable⟩ := h.writable file hfile
  refine Directory.read_of_writable (Directory.writable_congr h.sameDirectories hwritable) ?_
  rw [h.node?_eq]
  exact writeNodes_of_mem hwritable.leads (allDifferent_take hdifferent k) hfile

/-- What could be written partway could be written at the start. -/
theorem Partway.writable_of_written (h : Partway initial files k tree) {more : List PlannedWrite}
    (hwritten : Written tree more final) :
    ∀ file ∈ more, ∃ place, initial.Writable file.path place := fun file hfile =>
  (hwritten.writable file hfile).imp fun _ => Directory.writable_congr h.sameDirectories.symm

/-- What stands where after some more files were written partway. -/
theorem Partway.node?_eq_of_written (h : Partway initial files k tree) {more : List PlannedWrite}
    (hwritten : Written tree more final) :
    final.node? = writeNodes initial initial.node? (files.take k ++ more) := by
  rw [hwritten.node?_eq, ← writeNodes_eq_of_sameDirectories h.sameDirectories, h.node?_eq,
    ← writeNodes_append]

/-- Beginning again from the first file leads partway once more. -/
theorem Partway.restart (h : Partway initial files j tree)
    (hdifferent : initial.AllDifferent (files.map PlannedWrite.path)) (hk : k ≤ files.length)
    (hwritten : Written tree (files.take k) final) : Partway initial files (max j k) final := by
  refine ⟨max_le h.le hk, ?_, ?_, hwritten.sameDirectories.here_eq.symm.trans h.here_eq⟩
  · rcases Nat.le_total j k with hjk | hkj
    · rw [max_eq_right hjk]
      exact h.writable_of_written hwritten
    · rw [max_eq_left hkj]
      exact h.writable
  · rw [h.node?_eq_of_written hwritten, writeNodes_take_append_take hdifferent]

/-- Going on with the files that are left leads further. -/
theorem Partway.resume (h : Partway initial files j tree) (hk : k ≤ (files.drop j).length)
    (hwritten : Written tree ((files.drop j).take k) final) :
    Partway initial files (j + k) final := by
  rw [List.length_drop] at hk
  have htake : files.take (j + k) = files.take j ++ (files.drop j).take k := List.take_add
  have hle := h.le
  refine ⟨by omega, ?_, ?_, hwritten.sameDirectories.here_eq.symm.trans h.here_eq⟩
  · intro file hfile
    rw [htake, List.mem_append] at hfile
    exact hfile.elim (h.writable file) (h.writable_of_written hwritten file)
  · rw [h.node?_eq_of_written hwritten, htake]

end Partway

/-! ### The files of a run -/

/-- The paths of the four files that a run has to do with. -/
def runPaths (config : Config) (header : Path) : List Path :=
  [besidePath header config.overlayFile, besidePath header config.cleanupFile, header,
    companionPath config header]

theorem plannedTexts_of_transformed {config : Config} {header : Path} {scan : Scan}
    (h : scan.alreadyTransformed = true) : plannedTexts config header scan = [] := if_pos h

/-- The three files generated from a header that is not transformed, the header last. -/
theorem plannedTexts_of_not_transformed {config : Config} {header : Path} {source : Text}
    (h : (Scan.ofSource config source).alreadyTransformed = false) :
    plannedTexts config header (Scan.ofSource config source) =
      [{ path := besidePath header config.overlayFile,
         contents := (Overlay.generate config (Scan.ofSource config source)).overlay },
        { path := besidePath header config.cleanupFile,
          contents := (Overlay.generate config (Scan.ofSource config source)).cleanup },
        { path := header, contents := newHeader config source }] := by
  rw [plannedTexts, if_neg (by rw [h]; exact Bool.false_ne_true)]
  rfl

/-- What is planned for a companion is nothing, or a file that includes the cleanup. -/
theorem CompanionPlan.eq_nil_or_eq_singleton {config : Config} {tree : Directory} {path : Path}
    {status : CompanionStatus} {writes : List PlannedWrite}
    (h : CompanionPlan config tree path status writes) :
    writes = [] ∨ ∃ file : PlannedWrite, writes = [file] ∧ file.path = path ∧
      config.cleanupInclude <:+: file.contents := by
  cases h with
  | missing => exact .inl rfl
  | alreadyPatched => exact .inl rfl
  | patched _ _ hpatch => exact .inr ⟨_, rfl, rfl, infix_of_patch_eq_inserted hpatch⟩

/-- A plan writes to the four paths only, in their order. -/
theorem paths_sublist_runPaths {config : Config} {header : Path} {source : Text} {tree : Directory}
    {status : CompanionStatus} {patched : List PlannedWrite}
    (h : CompanionPlan config tree (companionPath config header) status patched) :
    List.Sublist ((plannedTexts config header (Scan.ofSource config source) ++ patched).map
      PlannedWrite.path) (runPaths config header) := by
  have hpatched : List.Sublist (patched.map PlannedWrite.path) [companionPath config header] := by
    rcases h.eq_nil_or_eq_singleton with rfl | ⟨file, rfl, hpath, _⟩
    · exact List.nil_sublist _
    · rw [List.map_singleton, hpath]
  rw [List.map_append]
  cases hscan : (Scan.ofSource config source).alreadyTransformed with
  | true =>
    rw [plannedTexts_of_transformed hscan]
    exact hpatched.trans (List.sublist_append_right (runPaths config header |>.take 3) _)
  | false =>
    rw [plannedTexts_of_not_transformed hscan]
    exact List.Sublist.append (List.Sublist.refl _) hpatched

/-- The files of a plan lie in different places if those of the run do. -/
theorem allDifferent_of_companionPlan {config : Config} {header : Path} {source : Text}
    {initial : Directory} {status : CompanionStatus} {patched : List PlannedWrite}
    (hpaths : initial.AllDifferent (runPaths config header))
    (h : CompanionPlan config initial (companionPath config header) status patched) :
    initial.AllDifferent ((plannedTexts config header (Scan.ofSource config source) ++ patched).map
      PlannedWrite.path) :=
  List.Pairwise.sublist (paths_sublist_runPaths h) hpaths

theorem allDifferent_of_plan {config : Config} {header : Path} {initial : Directory}
    (hpaths : initial.AllDifferent (runPaths config header)) {planned : Plan}
    (hplan : ((plan config false header).run initial).result = .ok planned) :
    initial.AllDifferent (planned.writes.map PlannedWrite.path) := by
  obtain ⟨source, status, patched, _, hcompanion, rfl⟩ := result_plan_eq_ok_iff.mp hplan
  exact allDifferent_of_companionPlan hpaths hcompanion

/-- No other file of a run is the header. -/
theorem not_sameFile_header {config : Config} {header : Path} {initial : Directory}
    (hpaths : initial.AllDifferent (runPaths config header)) :
    ¬ initial.SameFile (besidePath header config.overlayFile) header ∧
      ¬ initial.SameFile (besidePath header config.cleanupFile) header ∧
      ¬ initial.SameFile (companionPath config header) header := by
  simp only [Directory.AllDifferent, runPaths, List.pairwise_cons, List.mem_cons] at hpaths
  obtain ⟨hoverlay, hcleanup, hheader, _⟩ := hpaths
  refine ⟨hoverlay _ (.inr (.inl rfl)), hcleanup _ (.inl rfl), fun hsame => ?_⟩
  exact hheader _ (.inl rfl) hsame.symm

/-! ### Planning again -/

/-- Trees that agree on a companion have the same plan for it. -/
theorem CompanionPlan.congr {config : Config} {a b : Directory} {path : Path}
    {status : CompanionStatus} {writes : List PlannedWrite}
    (h : CompanionPlan config a path status writes) (hdirs : Directory.SameDirectories a b)
    (hnode : ∀ place, a.place? path = some place → a.node? place = b.node? place) :
    CompanionPlan config b path status writes := by
  have hthere := Directory.isThere_congr hdirs hnode
  cases h with
  | missing hnone => exact .missing (hthere ▸ hnone)
  | alreadyPatched hsome hread hpatch =>
    exact .alreadyPatched (hthere ▸ hsome) ((Directory.read_congr hdirs hnode).mp hread) hpatch
  | patched hsome hread hpatch =>
    exact .patched (hthere ▸ hsome) ((Directory.read_congr hdirs hnode).mp hread) hpatch

/-- There is nothing to do about a companion that includes the cleanup. -/
theorem companionPlan_of_included {config : Config} {tree : Directory} {path : Path} {source : Text}
    (hread : tree.read path = .ok source) (hline : config.cleanupInclude <:+: source) :
    CompanionPlan config tree path .alreadyPatched [] := by
  have hthere : tree.isThere path = true :=
    Directory.isThere_iff.mpr ⟨_, Directory.read_eq_ok_iff.mp hread⟩
  exact .alreadyPatched hthere hread (patch_eq_alreadyPatched_iff.mpr hline)

/-- A companion without a patch is missing or patched already. -/
theorem CompanionPlan.status_of_nil {config : Config} {tree : Directory} {path : Path}
    {status : CompanionStatus} (h : CompanionPlan config tree path status []) :
    status = .alreadyPatched ∨ status = .missing := by
  cases h with
  | missing => exact .inr rfl
  | alreadyPatched => exact .inl rfl

section Replan

variable {config : Config} {header : Path} {source : Text} {initial tree : Directory}
  {status : CompanionStatus} {patched : List PlannedWrite} {k : Nat}

/-- The texts are not written over the companion. -/
theorem not_sameFile_companion (hpaths : initial.AllDifferent (runPaths config header))
    {file : PlannedWrite} (hmem : file ∈ plannedTexts config header (Scan.ofSource config source)) :
    ¬ initial.SameFile file.path (companionPath config header) := by
  have hne : ∀ path ∈ (runPaths config header).take 3,
      ¬ initial.SameFile path (companionPath config header) := by
    intro path hpath
    have hsplit : runPaths config header
        = (runPaths config header).take 3 ++ [companionPath config header] := rfl
    rw [hsplit, Directory.AllDifferent, List.pairwise_append] at hpaths
    exact hpaths.2.2 _ hpath _ (List.mem_singleton_self _)
  cases hscan : (Scan.ofSource config source).alreadyTransformed with
  | true =>
    rw [plannedTexts_of_transformed hscan] at hmem
    exact absurd hmem List.not_mem_nil
  | false =>
    apply hne
    have hmap : (plannedTexts config header (Scan.ofSource config source)).map PlannedWrite.path
        = (runPaths config header).take 3 := by
      rw [plannedTexts_of_not_transformed hscan]
      rfl
    rw [← hmap]
    exact List.mem_map_of_mem hmem

/-- While only texts were written, the companion is to be patched as before. -/
theorem Partway.companionPlan_of_le (hpaths : initial.AllDifferent (runPaths config header))
    (hcompanion : CompanionPlan config initial (companionPath config header) status patched)
    (h : Partway initial (plannedTexts config header (Scan.ofSource config source) ++ patched) k
      tree)
    (hk : k ≤ (plannedTexts config header (Scan.ofSource config source)).length) :
    CompanionPlan config tree (companionPath config header) status patched := by
  refine hcompanion.congr h.sameDirectories fun _ => h.node?_eq_of_not_mem ?_
  rw [List.take_append_of_le_length hk]
  exact fun file hfile => not_sameFile_companion hpaths (List.mem_of_mem_take hfile)

/-- Once the companion was written, it includes the cleanup and all files were written. -/
theorem Partway.companionPlan_of_lt (hpaths : initial.AllDifferent (runPaths config header))
    (hcompanion : CompanionPlan config initial (companionPath config header) status patched)
    (h : Partway initial (plannedTexts config header (Scan.ofSource config source) ++ patched) k
      tree)
    (hk : (plannedTexts config header (Scan.ofSource config source)).length < k) :
    CompanionPlan config tree (companionPath config header) .alreadyPatched [] ∧
      (plannedTexts config header (Scan.ofSource config source) ++ patched).length = k := by
  have hdifferent := @allDifferent_of_companionPlan _ _ source _ _ _ hpaths hcompanion
  have hle := h.le
  rcases hcompanion.eq_nil_or_eq_singleton with rfl | ⟨file, rfl, hpath, hline⟩
  · rw [List.append_nil] at hle
    omega
  · -- there is but one file behind the texts, and it was written
    have hall :
        (plannedTexts config header (Scan.ofSource config source) ++ [file]).length = k := by
      rw [List.length_append, List.length_singleton] at hle ⊢
      omega
    have hmem : file ∈ (plannedTexts config header (Scan.ofSource config source)
        ++ [file]).take k := by
      rw [← hall, List.take_length]
      exact List.mem_append_right _ (List.mem_singleton_self _)
    have hread := h.read_of_mem hdifferent hmem
    rw [hpath] at hread
    exact ⟨companionPlan_of_included hread hline, hall⟩

/-- Before the last text was written, the header is the old one. -/
theorem Partway.read_header_of_lt (hpaths : initial.AllDifferent (runPaths config header))
    (hread : initial.read header = .ok source)
    (h : Partway initial (plannedTexts config header (Scan.ofSource config source) ++ patched) k
      tree)
    (hk : k < (plannedTexts config header (Scan.ofSource config source)).length) :
    tree.read header = .ok source := by
  refine (h.read_of_not_mem ?_).mpr hread
  rw [List.take_append_of_le_length (Nat.le_of_lt hk)]
  intro file hmem
  cases hscan : (Scan.ofSource config source).alreadyTransformed with
  | true =>
    rw [plannedTexts_of_transformed hscan] at hk
    exact absurd hk (Nat.not_lt_zero k)
  | false =>
    -- the overlay and the cleanup come before the header
    rw [plannedTexts_of_not_transformed hscan] at hk hmem
    have hle : k ≤ 2 := Nat.le_of_lt_succ hk
    have htwo := List.take_subset_take_left _ hle hmem
    obtain ⟨hoverlay, hcleanup, _⟩ := not_sameFile_header hpaths
    rcases List.mem_pair.mp htwo with rfl | rfl
    · exact hoverlay
    · exact hcleanup

/-- Once all texts were written, the header is recognised. -/
theorem Partway.exists_read_header_of_le (hfile : '\n' ∉ config.overlayFile)
    (hpaths : initial.AllDifferent (runPaths config header))
    (hread : initial.read header = .ok source)
    (hcompanion : CompanionPlan config initial (companionPath config header) status patched)
    (h : Partway initial (plannedTexts config header (Scan.ofSource config source) ++ patched) k
      tree)
    (hk : (plannedTexts config header (Scan.ofSource config source)).length ≤ k) :
    ∃ current, tree.read header = .ok current ∧
      (Scan.ofSource config current).alreadyTransformed = true := by
  have hdifferent := @allDifferent_of_companionPlan _ _ source _ _ _ hpaths hcompanion
  cases hscan : (Scan.ofSource config source).alreadyTransformed with
  | true =>
    -- nothing was written to the header, which was recognised from the start
    refine ⟨source, (h.read_of_not_mem ?_).mpr hread, hscan⟩
    intro file hmem
    rw [plannedTexts_of_transformed hscan, List.nil_append] at hmem
    rcases hcompanion.eq_nil_or_eq_singleton with rfl | ⟨patch, rfl, hpath, _⟩
    · rw [List.take_nil] at hmem
      exact absurd hmem List.not_mem_nil
    · rw [List.mem_singleton.mp (List.mem_of_mem_take hmem), hpath]
      exact (not_sameFile_header hpaths).2.2
  | false =>
    refine ⟨newHeader config source, ?_, ?_⟩
    · have hmem : { path := header, contents := newHeader config source }
          ∈ (plannedTexts config header (Scan.ofSource config source) ++ patched).take k := by
        rw [List.take_append, List.take_of_length_le hk, plannedTexts_of_not_transformed hscan]
        simp
      exact h.read_of_mem hdifferent hmem
    · exact (isRewritten_of_liveLines (liveLines_newHeader hfile source)).alreadyTransformed

/-- What a run plans in a partway tree: the first plan once more, or what is left of it. -/
theorem Partway.replan (hfile : '\n' ∉ config.overlayFile)
    (hpaths : initial.AllDifferent (runPaths config header)) {planned : Plan}
    (hplan : ((plan config false header).run initial).result = .ok planned)
    (h : Partway initial planned.writes k tree) :
    ∃ again, ((plan config false header).run tree).result = .ok again ∧
      (k < planned.writes.length ∧ again.writes = planned.writes ∨
        again.writes = planned.writes.drop k) := by
  obtain ⟨source, status, patched, hread, hcompanion, rfl⟩ := result_plan_eq_ok_iff.mp hplan
  rcases Nat.lt_or_ge k (plannedTexts config header (Scan.ofSource config source)).length
    with hlt | hge
  · -- the header is the old one, and nothing has been patched
    have hheader := h.read_header_of_lt hpaths hread hlt
    have hagain := h.companionPlan_of_le hpaths hcompanion (Nat.le_of_lt hlt)
    refine ⟨_, result_plan_eq_ok_iff.mpr ⟨source, status, patched, hheader, hagain, rfl⟩, .inl ?_⟩
    refine ⟨?_, rfl⟩
    rw [planFor, List.length_append]
    omega
  · -- the header is recognised, so that the companion is all that can be left
    obtain ⟨current, hheader, hscan⟩ := h.exists_read_header_of_le hfile hpaths hread hcompanion hge
    have hwrites : ∀ status more,
        (planFor config false header (Scan.ofSource config current) status more).writes = more := by
      intro status more
      rw [planFor, plannedTexts_of_transformed hscan, List.nil_append]
    rcases hge.lt_or_eq with hlt | heq
    · obtain ⟨hagain, hall⟩ := h.companionPlan_of_lt hpaths hcompanion hlt
      refine ⟨_, result_plan_eq_ok_iff.mpr ⟨current, _, _, hheader, hagain, rfl⟩, .inr ?_⟩
      rw [hwrites, planFor, List.drop_eq_nil_of_le (Nat.le_of_eq hall)]
    · have hagain := h.companionPlan_of_le hpaths hcompanion (Nat.le_of_eq heq.symm)
      refine ⟨_, result_plan_eq_ok_iff.mpr ⟨current, _, _, hheader, hagain, rfl⟩, .inr ?_⟩
      rw [hwrites, planFor, ← heq, List.drop_left]

end Replan

/-- A plan without writes finds a transformed header and no companion to patch. -/
theorem summary_of_no_writes {config : Config} {header : Path} {tree : Directory} {planned : Plan}
    (hplan : ((plan config false header).run tree).result = .ok planned)
    (hwrites : planned.writes = []) :
    planned.summary.alreadyTransformed = true ∧
      (planned.summary.companion = .alreadyPatched ∨ planned.summary.companion = .missing) := by
  obtain ⟨source, status, patched, _, hcompanion, rfl⟩ := result_plan_eq_ok_iff.mp hplan
  obtain ⟨htexts, rfl⟩ := List.append_eq_nil_iff.mp hwrites
  refine ⟨?_, hcompanion.status_of_nil⟩
  show (Scan.ofSource config source).alreadyTransformed = true
  by_contra hscan
  rw [plannedTexts_of_not_transformed (Bool.eq_false_iff.mpr hscan)] at htexts
  cases htexts

/-- A run with nothing to write stops nowhere but where it began, and succeeds. -/
theorem transform_of_no_writes {config : Config} {header : Path} {tree : Directory} {planned : Plan}
    (hplan : ((plan config false header).run tree).result = .ok planned)
    (hwrites : planned.writes = []) :
    (∀ final, StopsAt (transform config false header) tree final → final = tree) ∧
      ((transform config false header).run tree).result
        = .ok { planned.summary with filesWritten := [] } := by
  constructor
  · intro final hstop
    rcases stopsAt_transform_iff.mp hstop with ⟨_, rfl⟩ | ⟨again, hagain, k, _, hwritten⟩
    · rfl
    · cases hplan.symm.trans hagain
      rw [hwrites, List.take_nil] at hwritten
      cases hwritten
      rfl
  · obtain ⟨k, _, _, hend⟩ := exists_written_commit (filesWritten_of_plan hplan) tree
    rw [(run_transform_of_ok hplan).2]
    rcases hend with ⟨_, hok⟩ | ⟨hlt, _⟩
    · rw [hok, Plan.paths, hwrites]
      rfl
    · rw [hwrites] at hlt
      exact absurd hlt (Nat.not_lt_zero k)

/-- A run succeeds if all that it plans can be written. -/
theorem exists_ok_of_writable {config : Config} {header : Path} {tree : Directory} {planned : Plan}
    (hplan : ((plan config false header).run tree).result = .ok planned)
    (hwritable : ∀ file ∈ planned.writes, ∃ place, tree.Writable file.path place) :
    ∃ summary, ((transform config false header).run tree).result = .ok summary := by
  obtain ⟨k, _, hwritten, hend⟩ := exists_written_commit (filesWritten_of_plan hplan) tree
  rw [(run_transform_of_ok hplan).2]
  rcases hend with ⟨_, hok⟩ | ⟨hlt, fault, hfault, _⟩
  · exact ⟨_, hok⟩
  · -- the file that failed could be written at the start, and so it can now
    obtain ⟨place, hfile⟩ := hwritable _ (List.getElem_mem hlt)
    have hnow := Directory.writable_congr hwritten.sameDirectories hfile
    rw [Directory.write_eq_ok_iff.mpr ⟨place, hnow, rfl⟩] at hfault
    cases hfault

/-- A run that succeeds has written all that it planned. -/
theorem written_of_ok {config : Config} {header : Path} {tree : Directory} {planned : Plan}
    (hplan : ((plan config false header).run tree).result = .ok planned) {summary : Summary}
    (hok : ((transform config false header).run tree).result = .ok summary) :
    Written tree planned.writes ((transform config false header).run tree).tree := by
  obtain ⟨k, _, hwritten, hend⟩ := exists_written_commit (filesWritten_of_plan hplan) tree
  obtain ⟨htree, hresult⟩ := run_transform_of_ok hplan
  rw [htree]
  rcases hend with ⟨rfl, _⟩ | ⟨_, fault, _, herror⟩
  · rwa [List.take_length] at hwritten
  · cases hok.symm.trans (hresult.trans herror)

/-! ### Runs after runs -/

section Runs

variable {config : Config} {header : Path} {initial tree : Directory} {planned : Plan} {k : Nat}

/-- A run that is stopped in a partway tree leaves one. -/
theorem Partway.stop (hfile : '\n' ∉ config.overlayFile)
    (hpaths : initial.AllDifferent (runPaths config header))
    (hplan : ((plan config false header).run initial).result = .ok planned)
    (h : Partway initial planned.writes k tree) {final : Directory}
    (hstop : StopsAt (transform config false header) tree final) :
    ∃ k', Partway initial planned.writes k' final := by
  obtain ⟨again, hagain, hwrites⟩ := h.replan hfile hpaths hplan
  rcases stopsAt_transform_iff.mp hstop with ⟨⟨error, herror⟩, _⟩ | ⟨_, hsame, i, hi, hwritten⟩
  · cases hagain.symm.trans herror
  · cases hagain.symm.trans hsame
    rcases hwrites with ⟨_, heq⟩ | heq
    · rw [heq] at hi hwritten
      exact ⟨_, h.restart (allDifferent_of_plan hpaths hplan) hi hwritten⟩
    · rw [heq] at hi hwritten
      exact ⟨_, h.resume hi hwritten⟩

/-- A run that succeeds in a partway tree completes the first plan. -/
theorem Partway.complete (hfile : '\n' ∉ config.overlayFile)
    (hpaths : initial.AllDifferent (runPaths config header))
    (hplan : ((plan config false header).run initial).result = .ok planned)
    (h : Partway initial planned.writes k tree) {summary : Summary}
    (hok : ((transform config false header).run tree).result = .ok summary) :
    Partway initial planned.writes planned.writes.length
      ((transform config false header).run tree).tree := by
  obtain ⟨again, hagain, hwrites⟩ := h.replan hfile hpaths hplan
  have hwritten := written_of_ok hagain hok
  rw [← List.take_length (l := again.writes)] at hwritten
  rcases hwrites with ⟨hlt, heq⟩ | heq
  · rw [heq] at hwritten
    have hend := h.restart (allDifferent_of_plan hpaths hplan) le_rfl hwritten
    rwa [max_eq_right (Nat.le_of_lt hlt)] at hend
  · rw [heq] at hwritten
    have hend := h.resume le_rfl hwritten
    rwa [List.length_drop, Nat.add_sub_cancel' h.le] at hend

/-- A run in a partway tree succeeds if the whole first plan could be written at the start. -/
theorem Partway.exists_ok (hfile : '\n' ∉ config.overlayFile)
    (hpaths : initial.AllDifferent (runPaths config header))
    (hplan : ((plan config false header).run initial).result = .ok planned)
    (h : Partway initial planned.writes k tree)
    (hwritable : ∀ file ∈ planned.writes, ∃ place, initial.Writable file.path place) :
    ∃ summary, ((transform config false header).run tree).result = .ok summary := by
  obtain ⟨again, hagain, hwrites⟩ := h.replan hfile hpaths hplan
  refine exists_ok_of_writable hagain fun file hmem => ?_
  have hfirst : file ∈ planned.writes := by
    rcases hwrites with ⟨_, heq⟩ | heq
    · exact heq ▸ hmem
    · exact List.mem_of_mem_drop (heq ▸ hmem)
  exact (hwritable file hfirst).imp fun _ => Directory.writable_congr h.sameDirectories

theorem Partway.stops (hfile : '\n' ∉ config.overlayFile)
    (hpaths : initial.AllDifferent (runPaths config header))
    (hplan : ((plan config false header).run initial).result = .ok planned)
    (hstops : Relation.ReflTransGen (StopsAt (transform config false header)) initial tree) :
    ∃ k, Partway initial planned.writes k tree := by
  induction hstops with
  | refl => exact ⟨0, .start initial _⟩
  | tail _ hstop ih =>
    obtain ⟨k, hpartway⟩ := ih
    exact hpartway.stop hfile hpaths hplan hstop

/-- Runs that leave a tree alone wherever they are stopped leave it alone together. -/
theorem eq_of_stops
    (hstay : ∀ final, StopsAt (transform config false header) initial final → final = initial)
    (hstops : Relation.ReflTransGen (StopsAt (transform config false header)) initial tree) :
    tree = initial := by
  induction hstops with
  | refl => rfl
  | tail _ hstop ih =>
    rw [ih] at hstop
    exact hstay _ hstop

theorem stop_of_error {error : RunError}
    (hplan : ((plan config false header).run initial).result = .error error) :
    ∀ final, StopsAt (transform config false header) initial final → final = initial := by
  intro final hstop
  rcases stopsAt_transform_iff.mp hstop with ⟨_, heq⟩ | ⟨_, hok, _⟩
  · exact heq
  · cases hplan.symm.trans hok

end Runs

/-- **Restart safety**: however many runs were stopped wherever they were, the next one that
succeeds leaves what a single run would have left, and runs after it succeed, write nothing and
leave everything alone. -/
theorem restart_safe (config : Config) (header : Path) (hfile : '\n' ∉ config.overlayFile)
    {initial stopped : Directory} (hpaths : initial.AllDifferent (runPaths config header))
    (hstops : Relation.ReflTransGen (StopsAt (transform config false header)) initial stopped)
    {summary : Summary}
    (hok : ((transform config false header).run stopped).result = .ok summary) :
    let completed := ((transform config false header).run stopped).tree
    ((∃ summary, ((transform config false header).run initial).result = .ok summary) ∧
      completed.node? = ((transform config false header).run initial).tree.node?) ∧
    ∀ later, Relation.ReflTransGen (StopsAt (transform config false header)) completed later →
      later = completed ∧ ((transform config false header).run later).tree = completed ∧
        ∃ summary, ((transform config false header).run later).result = .ok summary ∧
          summary.filesWritten = [] ∧ summary.alreadyTransformed = true ∧
          (summary.companion = .alreadyPatched ∨ summary.companion = .missing) := by
  intro completed
  have hplanned : ∃ planned, ((plan config false header).run initial).result = .ok planned := by
    cases hplan : ((plan config false header).run initial).result with
    | ok planned => exact ⟨planned, rfl⟩
    | error error =>
      -- no run writes anything, and so none succeeds
      have hsame : stopped = initial := eq_of_stops (stop_of_error hplan) hstops
      rw [hsame, (run_transform_of_error hplan).2] at hok
      cases hok
  obtain ⟨planned, hplan⟩ := hplanned
  obtain ⟨k, hpartway⟩ := Partway.stops hfile hpaths hplan hstops
  have hcompleted := hpartway.complete hfile hpaths hplan hok
  constructor
  · -- what was written in the end could have been written at the start
    have hwritable : ∀ file ∈ planned.writes, ∃ place, initial.Writable file.path place := by
      intro file hmem
      exact hcompleted.writable file (by rwa [List.take_length])
    obtain ⟨single, hsingle⟩ := exists_ok_of_writable hplan hwritable
    have honce := (Partway.start initial _).complete hfile hpaths hplan hsingle
    exact ⟨⟨single, hsingle⟩, hcompleted.node?_eq.trans honce.node?_eq.symm⟩
  · -- a run from here on has nothing left to write
    obtain ⟨again, hagain, hwrites⟩ := hcompleted.replan hfile hpaths hplan
    have hnone : again.writes = [] := by
      rcases hwrites with ⟨hlt, _⟩ | heq
      · exact absurd hlt (lt_irrefl _)
      · rw [heq, List.drop_length]
    obtain ⟨hstay, hresult⟩ := transform_of_no_writes hagain hnone
    intro later hlater
    obtain rfl : later = completed := eq_of_stops hstay hlater
    exact ⟨rfl, hstay _ (stopsAt_run _ _), _, hresult, rfl, summary_of_no_writes hagain hnone⟩

/-- A run that is stopped behind its overlay, and another one.  The companion stands in a directory
beside that of the header. -/
theorem restart_safe_behind_overlay :
    let config : Config := { companionFile := "../src/prog.c".toList }
    let header := Text.bytes "gen/h.h".toList
    let generated := Text.bytes "gen".toList
    let sources := Text.bytes "src".toList
    let source := "static int x;\n".toList
    let companion := "static void COBOLANA_module_init".toList
    let initial : Directory :=
      { entries := [([generated], .directory), ([sources], .directory),
          ([generated, Text.bytes "h.h".toList], .file (.text source)),
          ([sources, Text.bytes "prog.c".toList], .file (.text companion))] }
    let overlay := (Overlay.generate config (Scan.ofSource config source)).overlay
    let stopped := initial.set [generated, config.overlayFile.bytes] (.file (.text overlay))
    let completed := ((transform config false header).run stopped).tree
    StopsAt (transform config false header) initial stopped ∧
      completed.node? = ((transform config false header).run initial).tree.node? ∧
      ((transform config false header).run completed).tree = completed := by
  intro config header generated sources source companion initial overlay stopped completed
  have hfile : '\n' ∉ config.overlayFile := by decide
  have hpaths : initial.AllDifferent (runPaths config header) := by decide +kernel
  have hscan : (Scan.ofSource config source).alreadyTransformed = false := by decide
  let patched := config.cleanupInclude ++ ['\n', '\n'] ++ companion
  have hpatch : patch config.cleanupInclude config.companionMarker companion
      = .inserted patched := by decide
  have hthere : initial.isThere (companionPath config header) = true := by rfl
  have hcompanion := CompanionPlan.patched hthere (by rfl) hpatch
  obtain ⟨planned, hplan, hwrites⟩ : ∃ planned,
      ((plan config false header).run initial).result = .ok planned ∧ planned.writes =
        plannedTexts config header (Scan.ofSource config source) ++
          [⟨companionPath config header, patched⟩] :=
    ⟨_, result_plan_eq_ok_iff.mpr ⟨source, _, _, by rfl, hcompanion, rfl⟩, rfl⟩
  rw [plannedTexts_of_not_transformed hscan] at hwrites
  have hoverlay : initial.Writable (besidePath header config.overlayFile)
      [generated, config.overlayFile.bytes] := by decide +kernel
  have hwritable : ∀ file ∈ planned.writes, ∃ place, initial.Writable file.path place := by
    intro file hmem
    rw [hwrites] at hmem
    simp only [List.cons_append, List.nil_append, List.mem_cons, List.not_mem_nil,
      or_false] at hmem
    rcases hmem with rfl | rfl | rfl | rfl
    · exact ⟨_, hoverlay⟩
    · exact ⟨[generated, config.cleanupFile.bytes], by decide +kernel⟩
    · exact ⟨[generated, Text.bytes "h.h".toList], by decide +kernel⟩
    · exact ⟨[sources, Text.bytes "prog.c".toList], by decide +kernel⟩
  have hwritten : Written initial (planned.writes.take 1) stopped := by
    rw [hwrites]
    exact .cons (Directory.write_eq_ok_iff.mpr ⟨_, hoverlay, rfl⟩) .nil
  have hlength : 1 ≤ planned.writes.length := by
    rw [hwrites]
    exact Nat.succ_le_succ (Nat.zero_le _)
  have hstop : StopsAt (transform config false header) initial stopped :=
    stopsAt_transform_iff.mpr (.inr ⟨planned, hplan, 1, hlength, hwritten⟩)
  obtain ⟨k, hpartway⟩ := Partway.stops hfile hpaths hplan (.single hstop)
  obtain ⟨summary, hok⟩ := hpartway.exists_ok hfile hpaths hplan hwritable
  obtain ⟨⟨_, hview⟩, hlater⟩ := restart_safe config header hfile hpaths (.single hstop) hok
  exact ⟨hstop, hview, (hlater _ .refl).2.1⟩

end StateOverlay
