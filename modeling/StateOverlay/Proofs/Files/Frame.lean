/-
What an access to a file depends on.

Following a path looks for directories on its way, and then at the place where it ends.  Trees with
the same directories that agree at this one place answer every access to the path alike, faults
included, and a write to it sets that place in both.

* `Meets` — a path that leads to the place where another one ends;
* `Meets.exists_take` — the other goes through that place, so that it leads there or stands above;
* `read_eq`, `isThere_eq`, `write_eq` — accesses to a path in trees that agree where it ends;
* `AgreeOutside` — trees that agree wherever some paths do not lead;
* `AgreeOutside.node?_reach_eq` — they agree where a path ends that none of these paths meets.
-/
import StateOverlay.Proofs.Files.Writing

namespace StateOverlay.Directory

variable {tree initial a b : Directory} {path : Path} {paths : List Path}

/-! ### Where a path ends -/

/-- A path leads to the place where another one ends: to the file of the other, or to the first
place on its way that is no directory. -/
def Meets (tree : Directory) (path other : Path) : Prop :=
  tree.place? path = some (tree.reach other)

instance (tree : Directory) (path other : Path) : Decidable (tree.Meets path other) :=
  inferInstanceAs (Decidable (_ = _))

/-- Following some steps ends where some first ones of them lead. -/
theorem exists_follow_eq_foldl_take (tree : Directory) (steps : List Bytes) :
    ∀ place, ∃ k, (tree.follow place steps).1 = (steps.take k).foldl Path.next place := by
  induction steps with
  | nil => exact fun place => ⟨0, rfl⟩
  | cons step rest ih =>
    intro place
    rw [follow_cons]
    split
    · obtain ⟨k, hk⟩ := ih (Path.next place step)
      exact ⟨k + 1, hk⟩
    · exact ⟨0, rfl⟩

/-- A path that meets another leads to the same place as the other or some first steps of it: it is
equal to the other, or stands above it. -/
theorem Meets.exists_take {other : Path} (h : tree.Meets path other) :
    ∃ k, tree.place? path =
      some (((Path.steps other).take k).foldl Path.next (tree.start other)) := by
  obtain ⟨k, hk⟩ := tree.exists_follow_eq_foldl_take (Path.steps other) (tree.start other)
  exact ⟨k, h.trans (congrArg some hk)⟩

section Access

variable (hdirs : SameDirectories a b) (hend : a.node? (a.reach path) = b.node? (a.reach path))

theorem look_congr {place : Place} (h : a.node? place = b.node? place) :
    a.look place = b.look place := by
  rw [look, look, h]

include hdirs hend

theorem resolve_eq : a.resolve path = b.resolve path := by
  have hlook : a.look (a.follow (a.start path) (Path.steps path)).1 =
      b.look (a.follow (a.start path) (Path.steps path)).1 := look_congr hend
  rw [resolve, resolve, ← hdirs.follow_start_eq]
  cases pathFault? path with
  | some fault => rfl
  | none =>
    generalize a.follow (a.start path) (Path.steps path) = ended at hlook ⊢
    obtain ⟨place, left⟩ := ended
    cases left with
    | nil => rfl
    | cons step rest =>
      dsimp only at hlook ⊢
      rw [hlook]

theorem lookup_eq : a.lookup path = b.lookup path := by
  rw [lookup, lookup, ← resolve_eq hdirs hend]
  cases hresolve : a.resolve path with
  | error fault => rfl
  | ok place =>
    obtain rfl := reach_of_place? (place?_eq_some_iff.mpr hresolve)
    dsimp only
    rw [look_congr hend]

theorem isThere_eq : a.isThere path = b.isThere path := by
  rw [isThere, isThere, lookup_eq hdirs hend]

theorem read_eq : a.read path = b.read path := by
  rw [read, read, lookup_eq hdirs hend]

/-- A write to a path comes to the same in both trees: a fault, or the same place set. -/
theorem write_eq (contents : Text) :
    b.write path contents =
      (a.write path contents).map fun _ => b.set (a.reach path) (.file (.text contents)) := by
  rw [write, write, ← resolve_eq hdirs hend]
  cases hresolve : a.resolve path with
  | error fault => rfl
  | ok place =>
    obtain rfl := reach_of_place? (place?_eq_some_iff.mpr hresolve)
    dsimp only
    rw [← look_congr hend]
    split
    · cases a.look (a.reach path) with
      | error fault => cases fault <;> rfl
      | ok node => cases node <;> rfl
    · rfl

end Access

/-! ### The places beside some paths -/

/-- Two trees agree wherever some paths do not lead. -/
def AgreeOutside (initial : Directory) (paths : List Path) (a b : Directory) : Prop :=
  ∀ place, (∀ path ∈ paths, initial.place? path ≠ some place) → a.node? place = b.node? place

theorem AgreeOutside.refl (initial : Directory) (paths : List Path) (a : Directory) :
    AgreeOutside initial paths a a :=
  fun _ _ => rfl

theorem AgreeOutside.symm (h : AgreeOutside initial paths a b) : AgreeOutside initial paths b a :=
  fun place hplace => (h place hplace).symm

theorem AgreeOutside.trans {c : Directory} (h : AgreeOutside initial paths a b)
    (h' : AgreeOutside initial paths b c) : AgreeOutside initial paths a c :=
  fun place hplace => (h place hplace).trans (h' place hplace)

/-- Setting one place in both trees keeps them in agreement. -/
theorem AgreeOutside.set (h : AgreeOutside initial paths a b) {place : Place} (hne : place ≠ [])
    (node : Node) : AgreeOutside initial paths (a.set place node) (b.set place node) := by
  intro other hother
  rw [node?_set hne, node?_set hne, h other hother]

/-- Writing a file under a path makes a difference at that path only. -/
theorem Writable.agreeOutside_set {place : Place} (h : tree.Writable path place)
    (hpath : path ∈ paths) (hdirs : SameDirectories initial tree) (node : Node) :
    AgreeOutside initial paths tree (tree.set place node) := by
  intro other hother
  rw [node?_set h.place_ne_nil, if_neg]
  rintro rfl
  exact hother path hpath (hdirs.place?_eq path ▸ h.leads)

/-- Trees that agree outside some paths agree where a path ends that none of these meets. -/
theorem AgreeOutside.node?_reach_eq (h : AgreeOutside initial paths a b)
    (hdirs : SameDirectories initial a) (hapart : ∀ other ∈ paths, ¬ initial.Meets other path) :
    a.node? (a.reach path) = b.node? (a.reach path) := by
  apply h
  intro other hother hplace
  rw [← hdirs.reach_eq] at hplace
  exact hapart other hother hplace

end StateOverlay.Directory
