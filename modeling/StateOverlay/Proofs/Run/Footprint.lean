/-
The paths that a run has to do with.

A run reads the header, tests and reads the companion, and writes the planned files.  All of these
stand under its four paths, so what the run comes to depends on the directories and on what stands
where these paths end, and it changes nothing but what stands where they lead.

* `Procedure.eq_or_write_of_step?` — what a step does to the files;
* `Procedure.Within` — a procedure that keeps to some paths;
* `Procedure.Within.bind` — what a procedure is continued with need keep to them only for the values
  that the procedure can have;
* `Procedure.Within.step?_congr` — trees that agree where these paths end lead to the same step;
* `Procedure.Within.agreeOutside` — a step makes no difference elsewhere;
* `within_transform` — a run keeps to its four paths.
-/
import StateOverlay.Proofs.Files.Frame
import StateOverlay.Proofs.Run.Restart

namespace StateOverlay

namespace Procedure

variable {α β : Type} {paths : List Path} {post : α → Prop}

/-! ### Procedures that keep to some paths -/

/-- A procedure that reads, tests and writes some paths only, whatever it is answered, and whose
value has a property. -/
def Within (paths : List Path) (post : α → Prop) : Procedure α → Prop
  | done value => post value
  | fail _ => True
  | report _ next => next.Within paths post
  | read path next => path ∈ paths ∧ ∀ answer, (next answer).Within paths post
  | isThere path next => path ∈ paths ∧ ∀ answer, (next answer).Within paths post
  | write path _ next => path ∈ paths ∧ ∀ answer, (next answer).Within paths post

theorem Within.bind {procedure : Procedure α} {f : α → Procedure β} {post' : β → Prop}
    (h : procedure.Within paths post) (hf : ∀ value, post value → (f value).Within paths post') :
    (procedure.bind f).Within paths post' := by
  induction procedure with
  | done value => exact hf value h
  | fail error => trivial
  | report event next ih => exact ih h
  | read path next ih => exact ⟨h.1, fun answer => ih answer (h.2 answer)⟩
  | isThere path next ih => exact ⟨h.1, fun answer => ih answer (h.2 answer)⟩
  | write path contents next ih => exact ⟨h.1, fun answer => ih answer (h.2 answer)⟩

/-! ### Steps -/

/-- A step leaves the tree alone, unless it writes a file that can be written. -/
theorem eq_or_write_of_step? {procedure rest : Procedure α} {tree next : Directory}
    (hstep : procedure.step? tree = some (rest, next)) :
    next = tree ∨ ∃ path contents continued place, procedure = write path contents continued ∧
      tree.Writable path place ∧ next = tree.set place (.file (.text contents)) := by
  cases procedure with
  | done value => cases hstep
  | fail error => cases hstep
  | report event continued => cases hstep; exact .inl rfl
  | read path continued => cases hstep; exact .inl rfl
  | isThere path continued => cases hstep; exact .inl rfl
  | write path contents continued =>
    rw [Procedure.step?] at hstep
    split at hstep
    · case h_1 written hwrite =>
      cases hstep
      obtain ⟨place, hwritable, rfl⟩ := Directory.write_eq_ok_iff.mp hwrite
      exact .inr ⟨path, contents, continued, place, rfl, hwritable, rfl⟩
    · cases hstep
      exact .inl rfl

/-- A step makes and breaks no directory. -/
theorem sameDirectories_step {procedure rest : Procedure α} {tree next : Directory}
    (hstep : procedure.step? tree = some (rest, next)) : Directory.SameDirectories tree next := by
  rcases eq_or_write_of_step? hstep with rfl | ⟨_, _, _, _, _, hwritable, rfl⟩
  · exact .refl _
  · exact hwritable.sameDirectories_set _

theorem Within.step? {procedure rest : Procedure α} {tree next : Directory}
    (h : procedure.Within paths post) (hstep : procedure.step? tree = some (rest, next)) :
    rest.Within paths post := by
  cases procedure with
  | done value => cases hstep
  | fail error => cases hstep
  | report event continued => cases hstep; exact h
  | read path continued => cases hstep; exact h.2 _
  | isThere path continued => cases hstep; exact h.2 _
  | write path contents continued =>
    rw [Procedure.step?] at hstep
    split at hstep
    · cases hstep; exact h.2 _
    · cases hstep; exact h.2 _

/-- A step makes no difference beside the paths that a procedure keeps to. -/
theorem Within.agreeOutside {procedure rest : Procedure α} {initial tree next : Directory}
    (h : procedure.Within paths post) (hdirs : Directory.SameDirectories initial tree)
    (hstep : procedure.step? tree = some (rest, next)) :
    Directory.AgreeOutside initial paths tree next := by
  rcases eq_or_write_of_step? hstep with rfl | ⟨_, _, _, _, rfl, hwritable, rfl⟩
  · exact .refl initial paths _
  · exact hwritable.agreeOutside_set h.1 hdirs _

/-- Trees with the same directories that agree where the paths end that a procedure keeps to lead to
the same step, and agree afterwards wherever they did before. -/
theorem Within.step?_congr {procedure rest : Procedure α} {a b next : Directory}
    (h : procedure.Within paths post) (hstep : procedure.step? a = some (rest, next))
    (hdirs : Directory.SameDirectories a b)
    (hend : ∀ path ∈ paths, a.node? (a.reach path) = b.node? (a.reach path)) :
    ∃ next', procedure.step? b = some (rest, next') ∧
      ∀ initial others, Directory.AgreeOutside initial others a b →
        Directory.AgreeOutside initial others next next' := by
  cases procedure with
  | done value => cases hstep
  | fail error => cases hstep
  | report event continued => cases hstep; exact ⟨b, rfl, fun _ _ => id⟩
  | read path continued =>
    cases hstep
    rw [Directory.read_eq hdirs (hend path h.1)]
    exact ⟨b, rfl, fun _ _ => id⟩
  | isThere path continued =>
    cases hstep
    rw [Directory.isThere_eq hdirs (hend path h.1)]
    exact ⟨b, rfl, fun _ _ => id⟩
  | write path contents continued =>
    rw [Procedure.step?] at hstep
    rw [Procedure.step?, Directory.write_eq hdirs (hend path h.1)]
    split at hstep
    · case h_1 written hwrite =>
      cases hstep
      rw [hwrite]
      obtain ⟨place, hwritable, rfl⟩ := Directory.write_eq_ok_iff.mp hwrite
      rw [Directory.reach_of_place? hwritable.leads]
      exact ⟨_, rfl, fun _ _ hagree => hagree.set hwritable.place_ne_nil _⟩
    · case h_2 fault hwrite =>
      cases hstep
      rw [hwrite]
      exact ⟨b, rfl, fun _ _ => id⟩

/-! ### The parts of a run -/

theorem within_reportAll (events : List Event) :
    (reportAll events).Within paths fun _ => True := by
  induction events with
  | nil => trivial
  | cons event events ih => exact ih

theorem within_readFile {path : Path} (hpath : path ∈ paths) :
    (readFile path).Within paths fun _ => True := by
  refine ⟨hpath, fun answer => ?_⟩
  cases answer <;> trivial

theorem within_writeFile {path : Path} (hpath : path ∈ paths) (contents : Text) :
    (writeFile path contents).Within paths fun _ => True := by
  refine ⟨hpath, fun answer => ?_⟩
  cases answer <;> trivial

end Procedure

open Procedure

section Run

variable {paths : List Path}

/-- Planning for a companion keeps to its path, and so does what is planned. -/
theorem within_planCompanion (config : Config) {path : Path} (hpath : path ∈ paths) :
    (planCompanion config path).Within paths fun planned =>
      ∀ file ∈ planned.2, file.path ∈ paths := by
  refine ⟨hpath, fun there => ?_⟩
  cases there with
  | false => exact fun file hfile => absurd hfile List.not_mem_nil
  | true =>
    refine (within_readFile hpath).bind fun source _ => ?_
    refine (within_reportAll _).bind fun _ _ => ?_
    cases patch config.cleanupInclude config.companionMarker source with
    | inserted contents =>
      intro file hfile
      rwa [List.mem_singleton.mp hfile]
    | alreadyPatched => exact fun file hfile => absurd hfile List.not_mem_nil
    | markerMissing => trivial

/-- Planning keeps to the four paths of a run, and so does what is planned. -/
theorem within_plan (config : Config) (dryRun : Bool) (header : Path) :
    (plan config dryRun header).Within (runPaths config header) fun planned =>
      ∀ file ∈ planned.writes, file.path ∈ runPaths config header := by
  have hheader : header ∈ runPaths config header := by simp [runPaths]
  have hcompanion : companionPath config header ∈ runPaths config header := by simp [runPaths]
  refine (within_readFile hheader).bind fun source _ => ?_
  refine (within_reportAll _).bind fun _ _ => ?_
  refine (within_reportAll _).bind fun _ _ => ?_
  refine (within_reportAll _).bind fun _ _ => ?_
  refine (within_planCompanion config hcompanion).bind ?_
  rintro ⟨companion, patched⟩ hpatched file hfile
  rcases List.mem_append.mp hfile with hfile | hfile
  · cases hscan : (Scan.ofSource config source).alreadyTransformed with
    | true =>
      rw [plannedTexts_of_transformed hscan] at hfile
      exact absurd hfile List.not_mem_nil
    | false =>
      rw [plannedTexts_of_not_transformed hscan] at hfile
      simp only [List.mem_cons, List.not_mem_nil, or_false] at hfile
      rcases hfile with rfl | rfl | rfl <;> simp [runPaths]
  · exact hpatched file hfile

theorem within_commitWrites (written : List Path) {files : List PlannedWrite}
    (h : ∀ file ∈ files, file.path ∈ paths) :
    (commitWrites written files).Within paths fun _ => True := by
  induction files generalizing written with
  | nil => trivial
  | cons file files ih =>
    rw [List.forall_mem_cons] at h
    exact (within_writeFile h.1 file.contents).bind fun _ _ => ih _ h.2

/-- A run keeps to its four paths. -/
theorem within_transform (config : Config) (dryRun : Bool) (header : Path) :
    (transform config dryRun header).Within (runPaths config header) fun _ => True := by
  refine (within_plan config dryRun header).bind fun planned hplanned => ?_
  cases dryRun with
  | true => trivial
  | false => exact (within_commitWrites _ hplanned).bind fun _ _ => trivial

end Run

end StateOverlay
