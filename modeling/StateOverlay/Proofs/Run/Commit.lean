/-
The effect of a run on the files.

Committing writes the planned files one after another and ends at the first that cannot be written,
so that a run, however it ends, has written a first part of its plan and touched nothing else.

* `writeNodes` — what stands under which names once some files were written in order;
* `Written.node?_eq` — a tree in which they were written gives that view;
* `exists_written_commitWrites` — committing writes a first part of the files, all of them if it
  succeeds, and fails at the first that cannot be written;
* `stopsAt_transform_iff` — a run can be stopped behind any of its writes, and nowhere else;
* `transform_effect` — the exact effect of a run.
-/
import StateOverlay.Proofs.Files.Writing
import StateOverlay.Proofs.Run.Planning

namespace StateOverlay

open Procedure

/-! ### Files written in order -/

/-- A view of a tree with a file written over what stood at its place. -/
def writeNode (tree : Directory) (view : Place → Option Node) (file : PlannedWrite) :
    Place → Option Node :=
  fun place =>
    if tree.place? file.path = some place then some (.file (.text file.contents)) else view place

/-- A view of a tree with some files written in order, a later one over an earlier one. -/
def writeNodes (tree : Directory) (view : Place → Option Node) (files : List PlannedWrite) :
    Place → Option Node :=
  files.foldl (writeNode tree) view

theorem writeNodes_cons (tree : Directory) (view : Place → Option Node) (file : PlannedWrite)
    (files : List PlannedWrite) :
    writeNodes tree view (file :: files) = writeNodes tree (writeNode tree view file) files := rfl

theorem writeNodes_append (tree : Directory) (view : Place → Option Node)
    (files more : List PlannedWrite) :
    writeNodes tree view (files ++ more) = writeNodes tree (writeNodes tree view files) more :=
  List.foldl_append

/-- Paths lead to the same places in trees with the same directories. -/
theorem writeNodes_eq_of_sameDirectories {a b : Directory} (h : Directory.SameDirectories a b) :
    writeNodes a = writeNodes b := by
  have hnode : writeNode a = writeNode b := by
    funext view file place
    rw [writeNode, writeNode, h.place?_eq]
  funext view files
  rw [writeNodes, writeNodes, hnode]

/-- A tree in which some files were written in order. -/
inductive Written : Directory → List PlannedWrite → Directory → Prop
  | nil {tree : Directory} : Written tree [] tree
  | cons {tree next final : Directory} {file : PlannedWrite} {files : List PlannedWrite}
      (hwrite : tree.write file.path file.contents = .ok next) (hrest : Written next files final) :
      Written tree (file :: files) final

/-- Writing some files changes what stands at their places and nothing else. -/
theorem Written.node?_eq {tree final : Directory} {files : List PlannedWrite}
    (h : Written tree files final) : final.node? = writeNodes tree tree.node? files := by
  induction h with
  | nil => rfl
  | @cons tree _ _ file _ hwrite _ ih =>
    obtain ⟨place, hwritable, rfl⟩ := Directory.write_eq_ok_iff.mp hwrite
    have hnode : (tree.set place (.file (.text file.contents))).node? =
        writeNode tree tree.node? file := by
      funext other
      rw [Directory.node?_set hwritable.place_ne_nil, writeNode, hwritable.leads]
      exact if_congr (by rw [Option.some_inj, eq_comm]) rfl rfl
    rw [ih, hnode, writeNodes_cons,
      writeNodes_eq_of_sameDirectories (hwritable.sameDirectories_set _)]

/-- Writing some files makes and breaks no directory. -/
theorem Written.sameDirectories {tree final : Directory} {files : List PlannedWrite}
    (h : Written tree files final) : Directory.SameDirectories tree final := by
  induction h with
  | nil => exact .refl _
  | cons hwrite _ ih =>
    obtain ⟨_, hwritable, rfl⟩ := Directory.write_eq_ok_iff.mp hwrite
    exact (hwritable.sameDirectories_set _).trans ih

/-- Files that were written in order could all be written at the start. -/
theorem Written.writable {tree final : Directory} {files : List PlannedWrite}
    (h : Written tree files final) : ∀ file ∈ files, ∃ place, tree.Writable file.path place := by
  induction h with
  | nil => exact fun _ hfile => absurd hfile List.not_mem_nil
  | cons hwrite _ ih =>
    obtain ⟨place, hwritable, rfl⟩ := Directory.write_eq_ok_iff.mp hwrite
    intro other hother
    rcases List.mem_cons.mp hother with rfl | hother
    · exact ⟨place, hwritable⟩
    · obtain ⟨place', hother⟩ := ih other hother
      exact ⟨place', Directory.writable_congr (hwritable.sameDirectories_set _).symm hother⟩

/-- Files that can all be written can be written in order. -/
theorem exists_written {files : List PlannedWrite} :
    ∀ {tree : Directory}, (∀ file ∈ files, ∃ place, tree.Writable file.path place) →
      ∃ final, Written tree files final := by
  induction files with
  | nil => exact fun _ => ⟨_, .nil⟩
  | cons file files ih =>
    intro tree h
    obtain ⟨place, hfile⟩ := h file List.mem_cons_self
    have hdirs := hfile.sameDirectories_set (.text file.contents)
    obtain ⟨final, hfinal⟩ := ih fun other hother =>
      (h other (List.mem_cons_of_mem _ hother)).imp fun _ => Directory.writable_congr hdirs
    exact ⟨final, .cons (Directory.write_eq_ok_iff.mpr ⟨place, hfile, rfl⟩) hfinal⟩

/-! ### Committing -/

theorem commitWrites_cons (written : List Path) (file : PlannedWrite) (files : List PlannedWrite) :
    commitWrites written (file :: files) = write file.path file.contents fun
      | .ok () =>
        report (.wrote file.path (Text.utf8Size file.contents))
          (commitWrites (written ++ [file.path]) files)
      | .error fault => fail (.write file.path fault) := by
  show write file.path file.contents _ = _
  congr 1
  funext answer
  cases answer <;> rfl

/-- Committing some files writes a first part of them.  It succeeds with all of them written, and
gives their paths in order, or fails at the first that cannot be. -/
theorem exists_written_commitWrites (files : List PlannedWrite) :
    ∀ (written : List Path) (tree : Directory), ∃ k ≤ files.length,
      Written tree (files.take k) ((commitWrites written files).run tree).tree ∧
        ((k = files.length ∧ ((commitWrites written files).run tree).result
            = .ok (written ++ files.map PlannedWrite.path)) ∨
          ∃ (hk : k < files.length) (fault : FileFault),
            ((commitWrites written files).run tree).tree.write files[k].path files[k].contents
              = .error fault ∧
            ((commitWrites written files).run tree).result
              = .error (.write files[k].path fault)) := by
  induction files with
  | nil =>
    intro written tree
    rw [List.map_nil, List.append_nil]
    exact ⟨0, le_rfl, .nil, .inl ⟨rfl, rfl⟩⟩
  | cons file files ih =>
    intro written tree
    rw [commitWrites_cons, run]
    cases hwrite : tree.write file.path file.contents with
    | error fault =>
      exact ⟨0, Nat.zero_le _, .nil, .inr ⟨Nat.succ_pos _, fault, hwrite, rfl⟩⟩
    | ok next =>
      obtain ⟨k, hk, hwritten, hend⟩ := ih (written ++ [file.path]) next
      refine ⟨k + 1, Nat.succ_le_succ hk, .cons hwrite hwritten, ?_⟩
      rcases hend with ⟨rfl, hresult⟩ | ⟨hlt, fault, hfault, hresult⟩
      · rw [List.append_assoc] at hresult
        exact .inl ⟨rfl, hresult⟩
      · exact .inr ⟨Nat.succ_lt_succ hlt, fault, hfault, hresult⟩

/-- Committing can be stopped with any first part of the files written that can be, and nowhere
else. -/
theorem stopsAt_commitWrites_iff {files : List PlannedWrite} :
    ∀ {written : List Path} {tree final : Directory},
      StopsAt (commitWrites written files) tree final ↔
        ∃ k ≤ files.length, Written tree (files.take k) final := by
  induction files with
  | nil =>
    intro written tree final
    constructor
    · intro h
      cases h with
      | here => exact ⟨0, le_rfl, .nil⟩
      | later hstep _ => cases hstep
    · rintro ⟨k, _, hwritten⟩
      rw [List.take_nil] at hwritten
      cases hwritten
      exact .here
  | cons file files ih =>
    intro written tree final
    rw [commitWrites_cons]
    constructor
    · intro h
      cases h with
      | here => exact ⟨0, Nat.zero_le _, .nil⟩
      | later hstep hrest =>
        rw [step?] at hstep
        cases hwrite : tree.write file.path file.contents with
        | error fault =>
          rw [hwrite] at hstep
          cases hstep
          cases hrest with
          | here => exact ⟨0, Nat.zero_le _, .nil⟩
          | later hstep _ => cases hstep
        | ok next =>
          rw [hwrite] at hstep
          cases hstep
          cases hrest with
          | here => exact ⟨1, Nat.succ_le_succ (Nat.zero_le _), .cons hwrite .nil⟩
          | later hstep hrest =>
            -- the report of the write, and then the other files
            cases hstep
            obtain ⟨k, hk, hwritten⟩ := ih.mp hrest
            exact ⟨k + 1, Nat.succ_le_succ hk, .cons hwrite hwritten⟩
    · rintro ⟨k, hk, hwritten⟩
      cases k with
      | zero => cases hwritten; exact .here
      | succ k =>
        rw [List.take_succ_cons] at hwritten
        cases hwritten with
        | @cons _ next _ _ _ hwrite hrest =>
          have hstops : StopsAt (commitWrites (written ++ [file.path]) files) next final :=
            ih.mpr ⟨k, Nat.le_of_succ_le_succ hk, hrest⟩
          have hreport : StopsAt (report (.wrote file.path (Text.utf8Size file.contents))
              (commitWrites (written ++ [file.path]) files)) next final := .later rfl hstops
          refine .later ?_ hreport
          rw [step?, hwrite]

/-! ### The effect of a run -/

/-- A dry run leaves the tree alone. -/
theorem run_transform_dry (config : Config) (header : Path) (tree : Directory) :
    ((transform config true header).run tree).tree = tree := by
  have hreadOnly : (transform config true header).ReadOnly :=
    (readOnly_plan config true header).bind fun _ => trivial
  exact hreadOnly.tree_run tree

/-- A run that cannot be planned comes to nothing but the fault of its plan. -/
theorem run_transform_of_error {config : Config} {dryRun : Bool} {header : Path} {tree : Directory}
    {error : RunError} (h : ((plan config dryRun header).run tree).result = .error error) :
    ((transform config dryRun header).run tree).tree = tree ∧
      ((transform config dryRun header).run tree).result = .error error := by
  rw [transform, bind_eq, tree_bind, result_bind, h, (readOnly_plan config dryRun header).tree_run]
  exact ⟨rfl, rfl⟩

/-- A run that is planned and no dry one commits its plan. -/
theorem run_transform_of_ok {config : Config} {header : Path} {tree : Directory} {planned : Plan}
    (h : ((plan config false header).run tree).result = .ok planned) :
    ((transform config false header).run tree).tree = ((commit planned).run tree).tree ∧
      ((transform config false header).run tree).result = ((commit planned).run tree).result := by
  rw [transform, bind_eq, tree_bind, result_bind, h, (readOnly_plan config false header).tree_run]
  exact ⟨rfl, rfl⟩

/-- Committing a plan comes to what writing its files comes to. -/
theorem run_commit (planned : Plan) (tree : Directory) :
    let writing := (commitWrites planned.summary.filesWritten planned.writes).run tree
    ((commit planned).run tree).tree = writing.tree ∧
      ((commit planned).run tree).result =
        writing.result.map fun written => { planned.summary with filesWritten := written } := by
  dsimp only
  rw [commit, bind_eq, tree_bind, result_bind]
  cases ((commitWrites planned.summary.filesWritten planned.writes).run tree).result with
  | error error => exact ⟨rfl, rfl⟩
  | ok value => exact ⟨rfl, rfl⟩

/-- The commitment of a plan in terms of how much of it was written. -/
theorem exists_written_commit {planned : Plan} (hnone : planned.summary.filesWritten = [])
    (tree : Directory) :
    ∃ k ≤ planned.writes.length,
      Written tree (planned.writes.take k) ((commit planned).run tree).tree ∧
        ((k = planned.writes.length ∧ ((commit planned).run tree).result
            = .ok { planned.summary with filesWritten := planned.paths }) ∨
          ∃ (hk : k < planned.writes.length) (fault : FileFault),
            ((commit planned).run tree).tree.write planned.writes[k].path
              planned.writes[k].contents = .error fault ∧
            ((commit planned).run tree).result
              = .error (.write planned.writes[k].path fault)) := by
  obtain ⟨k, hk, hwritten, hend⟩ := exists_written_commitWrites planned.writes [] tree
  obtain ⟨htree, hresult⟩ := run_commit planned tree
  rw [hnone] at htree hresult
  rw [htree, hresult]
  refine ⟨k, hk, hwritten, ?_⟩
  rcases hend with ⟨hall, hok⟩ | ⟨hlt, fault, hfault, herror⟩
  · exact .inl ⟨hall, by rw [hok]; rfl⟩
  · exact .inr ⟨hlt, fault, hfault, by rw [herror]; rfl⟩

/-- A run asks for a marker only while it is planned. -/
theorem run_transform_markerNotFound_iff {config : Config} {dryRun : Bool} {header : Path}
    {tree : Directory} {marker : Text} {path : Path} :
    ((transform config dryRun header).run tree).result = .error (.markerNotFound marker path) ↔
      ((plan config dryRun header).run tree).result = .error (.markerNotFound marker path) := by
  cases hplan : ((plan config dryRun header).run tree).result with
  | error error => rw [(run_transform_of_error hplan).2, Except.error.injEq, Except.error.injEq]
  | ok planned =>
    have hrun : ((transform config dryRun header).run tree).result
        ≠ .error (.markerNotFound marker path) := by
      cases dryRun with
      | true =>
        rw [transform, bind_eq, result_bind, hplan]
        exact fun h => nomatch h
      | false =>
        rw [(run_transform_of_ok hplan).2]
        have hnone := filesWritten_of_plan hplan
        obtain ⟨k, _, _, ⟨_, hok⟩ | ⟨_, fault, _, herror⟩⟩ := exists_written_commit hnone tree
        · rw [hok]; exact fun h => nomatch h
        · rw [herror]; exact fun h => nomatch h
    exact ⟨fun h => absurd h hrun, fun h => nomatch h⟩

/-- A run can be stopped with any first part of its plan written that can be, and nowhere else; a
run that cannot be planned leaves its tree alone. -/
theorem stopsAt_transform_iff {config : Config} {header : Path} {tree final : Directory} :
    StopsAt (transform config false header) tree final ↔
      ((∃ error, ((plan config false header).run tree).result = .error error) ∧ final = tree) ∨
        ∃ planned, ((plan config false header).run tree).result = .ok planned ∧
          ∃ k ≤ planned.writes.length, Written tree (planned.writes.take k) final := by
  have hreadOnly := readOnly_plan config false header
  have hcommit : ∀ planned : Plan, StopsAt (commit planned) tree final ↔
      ∃ k ≤ planned.writes.length, Written tree (planned.writes.take k) final := by
    intro planned
    rw [commit, bind_eq, stopsAt_bind_iff, ← stopsAt_commitWrites_iff]
    constructor
    · rintro (hwrites | ⟨_, _, hend⟩)
      · exact hwrites
      · -- behind the writes there is nothing but a report
        have hreport := ReadOnly.eq_of_stopsAt (by trivial) hend
        rw [hreport]
        exact stopsAt_run _ _
    · exact Or.inl
  rw [transform, bind_eq, stopsAt_bind_iff, hreadOnly.tree_run]
  cases hplan : ((plan config false header).run tree).result with
  | error error =>
    constructor
    · rintro (hstop | ⟨planned, hplanned, _⟩)
      · exact .inl ⟨⟨error, rfl⟩, hreadOnly.eq_of_stopsAt hstop⟩
      · cases hplanned
    · rintro (⟨_, rfl⟩ | ⟨planned, hplanned, _⟩)
      · exact .inl .here
      · cases hplanned
  | ok planned =>
    constructor
    · rintro (hstop | ⟨_, hplanned, hstop⟩)
      · exact .inr ⟨planned, rfl, 0, Nat.zero_le _, hreadOnly.eq_of_stopsAt hstop ▸ .nil⟩
      · cases hplanned
        exact .inr ⟨planned, rfl, (hcommit planned).mp hstop⟩
    · rintro (⟨⟨error, herror⟩, _⟩ | ⟨_, hplanned, hwritten⟩)
      · cases herror
      · cases hplanned
        exact .inr ⟨planned, rfl, (hcommit planned).mpr hwritten⟩

/-- **Exact effect of a run on the files**: a dry run and a run that cannot be planned change
nothing; any other run writes a first part of its plan, all of it exactly if it succeeds, and
otherwise fails at the write behind that part. -/
theorem transform_effect (config : Config) (dryRun : Bool) (header : Path) (tree : Directory) :
    let run := (transform config dryRun header).run tree
    let planning := ((plan config dryRun header).run tree).result
    let companion := companionPath config header
    ((∃ error, planning = .error error) ↔
      (∀ source, tree.read header ≠ .ok source) ∨
        (tree.isThere companion = true ∧ ∀ source, tree.read companion ≠ .ok source) ∨
        LacksMarker config tree companion) ∧
    (dryRun = true ∨ (∃ error, planning = .error error) → run.tree = tree) ∧
    (∀ planned, dryRun = false → planning = .ok planned →
      ∃ k ≤ planned.writes.length,
        run.tree.node? = writeNodes tree tree.node? (planned.writes.take k) ∧
        ((∃ summary, run.result = .ok summary) ↔ k = planned.writes.length) ∧
        (∀ summary, run.result = .ok summary →
          summary.filesWritten = planned.writes.map PlannedWrite.path) ∧
        ((∃ path fault, run.result = .error (.write path fault)) ↔ k < planned.writes.length) ∧
        ∀ hk : k < planned.writes.length,
          ∃ fault,
            run.tree.write planned.writes[k].path planned.writes[k].contents = .error fault ∧
            run.result = .error (.write planned.writes[k].path fault)) ∧
    ((∃ marker path, run.result = .error (.markerNotFound marker path)) ↔
      (∃ source, tree.read header = .ok source) ∧ LacksMarker config tree companion) := by
  intro run planning companion
  refine ⟨plan_fails_iff, ?_, ?_, ?_⟩
  · rintro (rfl | ⟨error, herror⟩)
    · exact run_transform_dry config header tree
    · exact (run_transform_of_error herror).1
  · rintro planned rfl hplan
    obtain ⟨htree, hresult⟩ := run_transform_of_ok hplan
    obtain ⟨k, hk, hwritten, hend⟩ := exists_written_commit (filesWritten_of_plan hplan) tree
    rw [← htree] at hwritten hend
    rw [← hresult] at hend
    refine ⟨k, hk, hwritten.node?_eq, ?_⟩
    rcases hend with ⟨rfl, hok⟩ | ⟨hlt, fault, hfault, herror⟩
    · -- everything was written
      refine ⟨⟨fun _ => rfl, fun _ => ⟨_, hok⟩⟩, ?_, ?_, fun hlt => absurd hlt (lt_irrefl _)⟩
      · intro summary hsummary
        cases hok.symm.trans hsummary
        rfl
      · constructor
        · rintro ⟨path, fault, herror⟩
          cases hok.symm.trans herror
        · exact fun hlt => absurd hlt (lt_irrefl _)
    · -- the write behind the first part failed
      refine ⟨?_, ?_, ⟨fun _ => hlt, fun _ => ⟨_, fault, herror⟩⟩,
        fun _ => ⟨fault, hfault, herror⟩⟩
      · constructor
        · rintro ⟨summary, hok⟩
          cases herror.symm.trans hok
        · exact fun hall => absurd hlt (by omega)
      · intro summary hok
        cases herror.symm.trans hok
  · constructor
    · rintro ⟨marker, path, herror⟩
      obtain ⟨hread, hlacks, _⟩ :=
        plan_markerNotFound_iff.mp (run_transform_markerNotFound_iff.mp herror)
      exact ⟨hread, hlacks⟩
    · rintro ⟨hread, hlacks⟩
      exact ⟨_, _, run_transform_markerNotFound_iff.mpr
        (plan_markerNotFound_iff.mpr ⟨hread, hlacks, rfl, rfl⟩)⟩

end StateOverlay
