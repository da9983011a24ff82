/-
What planning a run comes to.

Planning only reads.  It fails for one of three reasons: the header cannot be read, the companion is
there and cannot be read, or the companion holds neither the cleanup inclusion nor the marker.
Otherwise it plans the texts generated from the header, unless that is transformed already, and the
patched companion, if there is one to patch.

* `readOnly_plan` — planning writes nothing;
* `result_plan_eq_ok_iff` — the plan of a run, from what is read;
* `plan_fails_iff`, `plan_markerNotFound_iff` — when planning fails, and when for want of a marker.
-/
import StateOverlay.Proofs.Companion.Patching
import StateOverlay.Proofs.Run.Steps
import StateOverlay.Run.Transform

namespace StateOverlay

open Procedure

/-! ### The companion -/

/-- The path of the companion of a header. -/
def companionPath (config : Config) (header : Path) : Path :=
  besidePath header config.companionFile

/-- What a plan does about a companion: its status, and what is to be written to its path. -/
inductive CompanionPlan (config : Config) (tree : Directory) (path : Path) :
    CompanionStatus → List PlannedWrite → Prop
  | missing (hthere : tree.isThere path = false) : CompanionPlan config tree path .missing []
  | alreadyPatched {source : Text} (hthere : tree.isThere path = true)
      (hread : tree.read path = .ok source)
      (hpatch : patch config.cleanupInclude config.companionMarker source = .alreadyPatched) :
      CompanionPlan config tree path .alreadyPatched []
  | patched {source contents : Text} (hthere : tree.isThere path = true)
      (hread : tree.read path = .ok source)
      (hpatch : patch config.cleanupInclude config.companionMarker source = .inserted contents) :
      CompanionPlan config tree path .patched [{ path, contents }]

theorem result_readFile (path : Path) (tree : Directory) :
    ((readFile path).run tree).result =
      match tree.read path with
      | .ok source => .ok source
      | .error fault => .error (.read path fault) := by
  rw [readFile, run]
  cases tree.read path <;> rfl

theorem result_planCompanion (config : Config) (path : Path) (tree : Directory) :
    ((planCompanion config path).run tree).result =
      if tree.isThere path then
        match tree.read path with
        | .error fault => .error (.read path fault)
        | .ok source =>
          match patch config.cleanupInclude config.companionMarker source with
          | .inserted contents => .ok (.patched, [{ path, contents }])
          | .alreadyPatched => .ok (.alreadyPatched, [])
          | .markerMissing => .error (.markerNotFound config.companionMarker path)
      else .ok (.missing, []) := by
  rw [planCompanion, run]
  cases tree.isThere path with
  | false => rfl
  | true =>
    simp only [bind_eq, result_bind, result_readFile, (readOnly_readFile path).tree_run,
      result_reportAll, (readOnly_reportAll _).tree_run, if_true]
    cases tree.read path with
    | error fault => rfl
    | ok source =>
      dsimp only
      cases patch config.cleanupInclude config.companionMarker source <;> rfl

theorem readOnly_planCompanion (config : Config) (path : Path) :
    (planCompanion config path).ReadOnly := by
  intro there
  cases there with
  | false => trivial
  | true =>
    refine (readOnly_readFile path).bind fun source => ?_
    refine (readOnly_reportAll _).bind fun _ => ?_
    cases patch config.cleanupInclude config.companionMarker source <;> trivial

/-- Planning for a companion succeeds exactly with one of the three plans for it. -/
theorem result_planCompanion_eq_ok_iff {config : Config} {path : Path} {tree : Directory}
    {status : CompanionStatus} {writes : List PlannedWrite} :
    ((planCompanion config path).run tree).result = .ok (status, writes) ↔
      CompanionPlan config tree path status writes := by
  rw [result_planCompanion]
  constructor
  · intro h
    split at h
    · case isTrue hthere =>
      split at h
      · cases h
      · case h_2 source hread =>
        split at h
        · case h_1 contents hpatch => cases h; exact .patched hthere hread hpatch
        · case h_2 hpatch => cases h; exact .alreadyPatched hthere hread hpatch
        · cases h
    · case isFalse hthere => cases h; exact .missing (by simpa using hthere)
  · intro h
    cases h with
    | missing hthere => simp [hthere]
    | alreadyPatched hthere hread hpatch => simp [hthere, hread, hpatch]
    | patched hthere hread hpatch => simp [hthere, hread, hpatch]

/-! ### The plan -/

/-- The plan for a header with a given scan, whose companion has a given status and patch. -/
def planFor (config : Config) (dryRun : Bool) (header : Path) (scan : Scan)
    (companion : CompanionStatus) (patched : List PlannedWrite) : Plan :=
  { writes := plannedTexts config header scan ++ patched
    summary :=
      { header
        relocated := scan.sortedIdentifiers
        records := scan.records
        paramAlias := scan.isRelocated config.paramArrayIdent
        skipped := scan.skipped
        companion
        dryRun
        alreadyTransformed := scan.alreadyTransformed } }

/-- Planning a run writes nothing. -/
theorem readOnly_plan (config : Config) (dryRun : Bool) (header : Path) :
    (plan config dryRun header).ReadOnly := by
  refine (readOnly_readFile header).bind fun source => ?_
  refine (readOnly_reportAll _).bind fun _ => ?_
  refine (readOnly_reportAll _).bind fun _ => ?_
  refine (readOnly_reportAll _).bind fun _ => ?_
  exact (readOnly_planCompanion config _).bind fun _ => trivial

theorem result_plan (config : Config) (dryRun : Bool) (header : Path) (tree : Directory) :
    ((plan config dryRun header).run tree).result =
      match tree.read header with
      | .error fault => .error (.read header fault)
      | .ok source =>
        match ((planCompanion config (companionPath config header)).run tree).result with
        | .error error => .error error
        | .ok (companion, patched) =>
          .ok (planFor config dryRun header (Scan.ofSource config source) companion patched) := by
  rw [plan]
  simp only [bind_eq, result_bind, result_readFile, (readOnly_readFile header).tree_run,
    result_reportAll, (readOnly_reportAll _).tree_run, (readOnly_planCompanion config _).tree_run]
  cases tree.read header with
  | error fault => rfl
  | ok source =>
    dsimp only
    rw [companionPath]
    cases ((planCompanion config (besidePath header config.companionFile)).run tree).result <;> rfl

/-- The plan of a run, from what is read: the generated texts and the patched companion. -/
theorem result_plan_eq_ok_iff {config : Config} {dryRun : Bool} {header : Path} {tree : Directory}
    {planned : Plan} :
    ((plan config dryRun header).run tree).result = .ok planned ↔
      ∃ source companion patched, tree.read header = .ok source ∧
        CompanionPlan config tree (companionPath config header) companion patched ∧
        planned = planFor config dryRun header (Scan.ofSource config source) companion patched := by
  rw [result_plan]
  constructor
  · intro h
    split at h
    · cases h
    · case h_2 source hsource =>
      split at h
      · cases h
      · case h_2 companion patched hcompanion =>
        cases h
        exact ⟨source, companion, patched, hsource,
          result_planCompanion_eq_ok_iff.mp hcompanion, rfl⟩
  · rintro ⟨source, companion, patched, hsource, hcompanion, rfl⟩
    rw [hsource, result_planCompanion_eq_ok_iff.mpr hcompanion]

/-- A plan is not carried out yet. -/
theorem filesWritten_of_plan {config : Config} {dryRun : Bool} {header : Path} {tree : Directory}
    {planned : Plan} (h : ((plan config dryRun header).run tree).result = .ok planned) :
    planned.summary.filesWritten = [] := by
  obtain ⟨_, _, _, _, _, rfl⟩ := result_plan_eq_ok_iff.mp h
  rfl

/-! ### When planning fails -/

/-- A companion that is there and can be read, but holds neither the cleanup inclusion nor the
marker. -/
def LacksMarker (config : Config) (tree : Directory) (path : Path) : Prop :=
  tree.isThere path = true ∧ ∃ source, tree.read path = .ok source ∧
    ¬ config.cleanupInclude <:+: source ∧ ¬ config.companionMarker <:+: source

/-- What planning says of a companion that it can do nothing about. -/
theorem result_planCompanion_eq_error_iff {config : Config} {path : Path} {tree : Directory}
    {error : RunError} :
    ((planCompanion config path).run tree).result = .error error ↔
      (tree.isThere path = true ∧ ∃ fault, tree.read path = .error fault ∧
          error = .read path fault) ∨
        (LacksMarker config tree path ∧ error = .markerNotFound config.companionMarker path) := by
  rw [result_planCompanion]
  constructor
  · intro h
    split at h
    · case isTrue hthere =>
      split at h
      · case h_1 fault hread =>
        cases h
        exact .inl ⟨hthere, fault, hread, rfl⟩
      · case h_2 source hread =>
        split at h
        · cases h
        · cases h
        · case h_3 hpatch =>
          cases h
          exact .inr ⟨⟨hthere, source, hread, patch_eq_markerMissing_iff.mp hpatch⟩, rfl⟩
    · cases h
  · rintro (⟨hthere, fault, hread, rfl⟩ | ⟨⟨hthere, source, hread, hlacks⟩, rfl⟩)
    · simp [hthere, hread]
    · simp [hthere, hread, patch_eq_markerMissing_iff.mpr hlacks]

/-- What planning says of a header that cannot be read, or of its companion. -/
theorem result_plan_eq_error_iff {config : Config} {dryRun : Bool} {header : Path}
    {tree : Directory} {error : RunError} :
    ((plan config dryRun header).run tree).result = .error error ↔
      (∃ fault, tree.read header = .error fault ∧ error = .read header fault) ∨
        ((∃ source, tree.read header = .ok source) ∧
          ((planCompanion config (companionPath config header)).run tree).result
            = .error error) := by
  rw [result_plan]
  cases tree.read header with
  | error fault => simp [eq_comm]
  | ok source =>
    cases ((planCompanion config (companionPath config header)).run tree).result with
    | error problem => simp
    | ok found => simp

theorem exists_error_iff {ε α : Type} {result : Except ε α} :
    (∃ error, result = .error error) ↔ ∀ value, result ≠ .ok value := by
  cases result with
  | error error => simp
  | ok value => simp

/-- Planning fails exactly if the header cannot be read, or the companion is there and cannot be
read, or it lacks the marker. -/
theorem plan_fails_iff {config : Config} {dryRun : Bool} {header : Path} {tree : Directory} :
    (∃ error, ((plan config dryRun header).run tree).result = .error error) ↔
      (∀ source, tree.read header ≠ .ok source) ∨
        (tree.isThere (companionPath config header) = true ∧
          ∀ source, tree.read (companionPath config header) ≠ .ok source) ∨
        LacksMarker config tree (companionPath config header) := by
  simp only [result_plan_eq_error_iff, result_planCompanion_eq_error_iff]
  constructor
  · rintro ⟨error, ⟨fault, hread, _⟩ | ⟨_, ⟨hthere, fault, hread, _⟩ | ⟨hlacks, _⟩⟩⟩
    · exact .inl (exists_error_iff.mp ⟨fault, hread⟩)
    · exact .inr (.inl ⟨hthere, exists_error_iff.mp ⟨fault, hread⟩⟩)
    · exact .inr (.inr hlacks)
  · intro h
    cases hheader : tree.read header with
    | error fault => exact ⟨_, .inl ⟨fault, rfl, rfl⟩⟩
    | ok source =>
      rcases h with hread | ⟨hthere, hread⟩ | hlacks
      · exact absurd hheader (hread source)
      · obtain ⟨fault, hfault⟩ := exists_error_iff.mpr hread
        exact ⟨_, .inr ⟨⟨source, rfl⟩, .inl ⟨hthere, fault, hfault, rfl⟩⟩⟩
      · exact ⟨_, .inr ⟨⟨source, rfl⟩, .inr ⟨hlacks, rfl⟩⟩⟩

/-- Planning asks for a marker exactly if header and companion can be read and the companion lacks
it. -/
theorem plan_markerNotFound_iff {config : Config} {dryRun : Bool} {header : Path}
    {tree : Directory} {marker : Text} {path : Path} :
    ((plan config dryRun header).run tree).result = .error (.markerNotFound marker path) ↔
      (∃ source, tree.read header = .ok source) ∧
        LacksMarker config tree (companionPath config header) ∧
        marker = config.companionMarker ∧ path = companionPath config header := by
  rw [result_plan_eq_error_iff, result_planCompanion_eq_error_iff]
  simp

end StateOverlay
