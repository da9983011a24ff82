/-
What a path leads to, and what writing a file changes.

Following a path goes through directories alone, and writing a file makes and breaks no directory.
So a write changes what stands at its own place and nothing else: every path leads where it led
before, and what could be written before can be written afterwards.

* `place?` — the place that a path leads to, if nothing is in its way;
* `SameFile`, `AllDifferent` — paths that lead to one place, however they are written, and paths of
  which no two do;
* `SameDirectories.place?_eq` — where a path leads depends on the directories alone;
* `lookup_congr` — trees with the same directories agree on every path at whose place they agree;
* `Writable`, `write_eq_ok_iff` — when a file can be written, and the tree with it;
* `read_of_writable` — what stands under a path that can be written is read back.
-/
import Mathlib.Data.List.Basic
import Mathlib.Tactic.SplitIfs
import StateOverlay.Files.Directory

namespace StateOverlay.Directory

variable {tree a b : Directory} {path : Path} {place : Place} {node : Node}

/-! ### Where a path leads -/

/-- The place that a path leads to, if nothing is in its way. -/
def place? (tree : Directory) (path : Path) : Option Place := (tree.resolve path).toOption

/-- The place where following a path ends: the one it leads to, or the first one on its way that is
no directory. -/
def reach (tree : Directory) (path : Path) : Place :=
  (tree.follow (tree.start path) (Path.steps path)).1

/-- Two paths lead to one place. -/
def SameFile (tree : Directory) (path other : Path) : Prop :=
  tree.place? path ≠ none ∧ tree.place? path = tree.place? other

instance (tree : Directory) (path other : Path) : Decidable (tree.SameFile path other) :=
  inferInstanceAs (Decidable (_ ∧ _))

/-- No two of some paths lead to one place. -/
def AllDifferent (tree : Directory) (paths : List Path) : Prop :=
  paths.Pairwise fun path other => ¬ tree.SameFile path other

instance (tree : Directory) (paths : List Path) : Decidable (tree.AllDifferent paths) :=
  inferInstanceAs (Decidable (List.Pairwise _ paths))

theorem sameFile_of_place? {other : Path} (h : tree.place? path = some place)
    (h' : tree.place? other = some place) : tree.SameFile path other :=
  ⟨by rw [h]; exact Option.some_ne_none place, h.trans h'.symm⟩

theorem SameFile.symm {other : Path} (h : tree.SameFile path other) : tree.SameFile other path :=
  ⟨h.2 ▸ h.1, h.2.symm⟩

theorem SameFile.place?_eq {other : Path} (h : tree.SameFile path other) :
    tree.place? other = tree.place? path := h.2.symm

theorem resolve_eq_ok_iff :
    tree.resolve path = .ok place ↔
      pathFault? path = none ∧ tree.follow (tree.start path) (Path.steps path) = (place, []) := by
  rw [resolve]
  cases pathFault? path with
  | some fault => simp
  | none =>
    obtain ⟨found, left⟩ := tree.follow (tree.start path) (Path.steps path)
    cases left with
    | nil => simp
    | cons step rest =>
      dsimp only
      cases tree.look found <;> simp

theorem place?_eq_some_iff : tree.place? path = some place ↔ tree.resolve path = .ok place := by
  rw [place?]
  cases tree.resolve path <;> simp [Except.toOption]

/-- A path that leads to a place ends there. -/
theorem reach_of_place? (h : tree.place? path = some place) : tree.reach path = place := by
  rw [reach, (resolve_eq_ok_iff.mp (place?_eq_some_iff.mp h)).2]

theorem look_eq_ok_iff :
    tree.look place = .ok node ↔
      (∀ name ∈ place, name.length ≤ longestName) ∧ tree.node? place = some node := by
  rw [look]
  by_cases hlong : place.any (longestName < ·.length)
  · rw [if_pos hlong]
    obtain ⟨name, hmem, hname⟩ := List.any_eq_true.mp hlong
    have hshort : ¬ ∀ name ∈ place, name.length ≤ longestName := fun h =>
      absurd (h name hmem) (Nat.not_le_of_lt (of_decide_eq_true hname))
    simp [hshort]
  · rw [if_neg hlong]
    have hshort : ∀ name ∈ place, name.length ≤ longestName := by simpa using hlong
    rw [and_iff_right hshort]
    cases tree.node? place <;> simp

theorem isDirectory_iff :
    tree.isDirectory place = true ↔
      (∀ name ∈ place, name.length ≤ longestName) ∧ tree.node? place = some .directory := by
  rw [← look_eq_ok_iff, isDirectory]
  cases tree.look place with
  | error fault => simp
  | ok node => cases node <;> simp

theorem follow_nil (tree : Directory) (place : Place) : tree.follow place [] = (place, []) := rfl

theorem follow_cons (tree : Directory) (place : Place) (step : Bytes) (rest : List Bytes) :
    tree.follow place (step :: rest) =
      if tree.isDirectory place then tree.follow (Path.next place step) rest
      else (place, step :: rest) := rfl

/-- Following some steps and then others: the others are taken where the first ones end, if all of
these could be taken. -/
theorem follow_append_eq_iff {steps rest : List Bytes} {final : Place} :
    tree.follow place (steps ++ rest) = (final, []) ↔
      ∃ middle, tree.follow place steps = (middle, []) ∧
        tree.follow middle rest = (final, []) := by
  induction steps generalizing place with
  | nil => simp [follow_nil]
  | cons step steps ih =>
    rw [List.cons_append, follow_cons, follow_cons]
    split
    · exact ih
    · simp

/-- One more step is taken from a directory. -/
theorem follow_concat_eq_iff {steps : List Bytes} {step : Bytes} {final : Place} :
    tree.follow place (steps ++ [step]) = (final, []) ↔
      ∃ middle, tree.follow place steps = (middle, []) ∧ tree.isDirectory middle = true ∧
        final = Path.next middle step := by
  rw [follow_append_eq_iff]
  refine exists_congr fun middle => and_congr_right fun _ => ?_
  rw [follow_cons]
  by_cases hmiddle : tree.isDirectory middle = true
  · simp [hmiddle, follow_nil, eq_comm]
  · simp [hmiddle]

/-! ### Trees with the same directories -/

/-- Two trees have the same working directory, and directories in the same places. -/
structure SameDirectories (a b : Directory) : Prop where
  here_eq : a.here = b.here
  node?_iff : ∀ place, a.node? place = some .directory ↔ b.node? place = some .directory

theorem SameDirectories.refl (a : Directory) : SameDirectories a a := ⟨rfl, fun _ => Iff.rfl⟩

theorem SameDirectories.symm (h : SameDirectories a b) : SameDirectories b a :=
  ⟨h.here_eq.symm, fun place => (h.node?_iff place).symm⟩

theorem SameDirectories.trans {c : Directory} (h : SameDirectories a b)
    (h' : SameDirectories b c) : SameDirectories a c :=
  ⟨h.here_eq.trans h'.here_eq, fun place => (h.node?_iff place).trans (h'.node?_iff place)⟩

section SameDirectories

variable (h : SameDirectories a b)

include h

theorem SameDirectories.follow_eq (place : Place) (steps : List Bytes) :
    a.follow place steps = b.follow place steps := by
  induction steps generalizing place with
  | nil => rfl
  | cons step rest ih =>
    have hdirectory : a.isDirectory place = b.isDirectory place := by
      rw [Bool.eq_iff_iff, isDirectory_iff, isDirectory_iff, h.node?_iff]
    rw [follow_cons, follow_cons, hdirectory, ih]

theorem SameDirectories.follow_start_eq (path : Path) :
    a.follow (a.start path) (Path.steps path) = b.follow (b.start path) (Path.steps path) := by
  have hstart : a.start path = b.start path := by rw [start, start, h.here_eq]
  rw [hstart, h.follow_eq]

theorem SameDirectories.reach_eq (path : Path) : a.reach path = b.reach path := by
  rw [reach, reach, h.follow_start_eq]

/-- Where a path leads depends on the directories alone. -/
theorem SameDirectories.place?_eq (path : Path) : a.place? path = b.place? path := by
  refine Option.ext fun place => ?_
  rw [place?_eq_some_iff, place?_eq_some_iff, resolve_eq_ok_iff, resolve_eq_ok_iff,
    h.follow_start_eq]

end SameDirectories

/-! ### What a path names -/

/-- A path names what stands at its place, a file only without a slash at its end. -/
theorem lookup_eq_ok_iff :
    tree.lookup path = .ok node ↔
      ∃ place, tree.place? path = some place ∧ tree.look place = .ok node ∧
        (node = .directory ∨ Path.endsInSlash path = false) := by
  simp only [place?_eq_some_iff]
  rw [lookup]
  cases tree.resolve path with
  | error fault => simp
  | ok place =>
    dsimp only
    cases hlook : tree.look place with
    | error fault => simp [hlook]
    | ok found =>
      cases found with
      | directory => cases node <;> simp [hlook]
      | file content => cases Path.endsInSlash path <;> cases node <;> simp [hlook]

/-- Trees with the same directories agree on a path if they agree at its place. -/
theorem lookup_congr (hdirs : SameDirectories a b)
    (hnode : ∀ place, a.place? path = some place → a.node? place = b.node? place) :
    a.lookup path = .ok node ↔ b.lookup path = .ok node := by
  rw [lookup_eq_ok_iff, lookup_eq_ok_iff]
  refine exists_congr fun place => ?_
  rw [← hdirs.place?_eq]
  refine and_congr_right fun hplace => ?_
  rw [look_eq_ok_iff, look_eq_ok_iff, hnode place hplace]

theorem isThere_iff : tree.isThere path = true ↔ ∃ node, tree.lookup path = .ok node := by
  rw [isThere]
  cases tree.lookup path with
  | error fault => simp [Except.isOk, Except.toBool]
  | ok node => simp [Except.isOk, Except.toBool]

theorem isThere_congr (hdirs : SameDirectories a b)
    (hnode : ∀ place, a.place? path = some place → a.node? place = b.node? place) :
    a.isThere path = b.isThere path := by
  rw [Bool.eq_iff_iff, isThere_iff, isThere_iff]
  exact exists_congr fun node => lookup_congr hdirs hnode

theorem read_eq_ok_iff {s : Text} :
    tree.read path = .ok s ↔ tree.lookup path = .ok (.file (.text s)) := by
  rw [read]
  cases tree.lookup path with
  | error fault => simp
  | ok node =>
    cases node with
    | directory => simp
    | file content => cases content <;> simp [Content.read]

theorem read_congr {s : Text} (hdirs : SameDirectories a b)
    (hnode : ∀ place, a.place? path = some place → a.node? place = b.node? place) :
    a.read path = .ok s ↔ b.read path = .ok s := by
  rw [read_eq_ok_iff, read_eq_ok_iff, lookup_congr hdirs hnode]

/-! ### Writing a file -/

/-- A file can be written under a path that leads to a place: the path ends in the name of an entry,
and there is no directory of that name. -/
structure Writable (tree : Directory) (path : Path) (place : Place) : Prop where
  leads : tree.place? path = some place
  name : Path.endsInName path = true
  short : ∀ name ∈ place, name.length ≤ longestName
  noDirectory : tree.node? place ≠ some .directory

instance (tree : Directory) (path : Path) (place : Place) : Decidable (tree.Writable path place) :=
  decidable_of_iff (tree.place? path = some place ∧ Path.endsInName path = true ∧
      (∀ name ∈ place, name.length ≤ longestName) ∧ tree.node? place ≠ some .directory)
    ⟨fun ⟨leads, name, short, noDirectory⟩ => ⟨leads, name, short, noDirectory⟩,
      fun h => ⟨h.leads, h.name, h.short, h.noDirectory⟩⟩

theorem write_of_resolve (h : tree.resolve path = .ok place) (contents : Text) :
    tree.write path contents =
      if Path.endsInName path = false then .error .isDirectory
      else if ¬ ∀ name ∈ place, name.length ≤ longestName then .error .nameTooLong
      else if tree.node? place = some .directory then .error .isDirectory
      else .ok (tree.set place (.file (.text contents))) := by
  rw [write, h]
  dsimp only
  cases Path.endsInName path with
  | false => rfl
  | true =>
    rw [if_pos rfl, if_neg (by decide), look]
    by_cases hshort : ∀ name ∈ place, name.length ≤ longestName
    · have hlong : ¬ place.any (longestName < ·.length) = true := by simpa using hshort
      rw [if_neg hlong, if_neg (not_not.mpr hshort)]
      cases tree.node? place with
      | none => rfl
      | some node => cases node <;> rfl
    · have hlong : place.any (longestName < ·.length) = true := by simpa using hshort
      rw [if_pos hlong, if_pos hshort]

/-- A write succeeds exactly on a path that can be written, and sets the file at its place. -/
theorem write_eq_ok_iff {written : Directory} {contents : Text} :
    tree.write path contents = .ok written ↔
      ∃ place, tree.Writable path place ∧
        written = tree.set place (.file (.text contents)) := by
  constructor
  · intro h
    cases hresolve : tree.resolve path with
    | error fault =>
      rw [write, hresolve] at h
      cases h
    | ok place =>
      rw [write_of_resolve hresolve] at h
      split_ifs at h with hname hshort hdirectory
      cases h
      exact ⟨place, ⟨place?_eq_some_iff.mpr hresolve, by simpa using hname, hshort,
        hdirectory⟩, rfl⟩
  · rintro ⟨place, h, rfl⟩
    rw [write_of_resolve (place?_eq_some_iff.mp h.leads), if_neg (by simp [h.name]),
      if_neg (not_not.mpr h.short), if_neg h.noDirectory]

/-- A file is never written at the root. -/
theorem Writable.place_ne_nil (h : tree.Writable path place) : place ≠ [] := by
  rintro rfl
  exact h.noDirectory rfl

/-- Writing a file makes and breaks no directory. -/
theorem Writable.sameDirectories_set (h : tree.Writable path place) (content : Content) :
    SameDirectories tree (tree.set place (.file content)) := by
  refine ⟨rfl, fun other => ?_⟩
  rw [node?_set h.place_ne_nil]
  by_cases hplace : other = place
  · rw [if_pos hplace, hplace]
    simp [h.noDirectory]
  · rw [if_neg hplace]

/-- Which files can be written depends on the directories alone. -/
theorem writable_congr (hdirs : SameDirectories a b) (h : a.Writable path place) :
    b.Writable path place where
  leads := hdirs.place?_eq path ▸ h.leads
  name := h.name
  short := h.short
  noDirectory hdirectory := h.noDirectory ((hdirs.node?_iff _).mpr hdirectory)

/-- What stands under a path that can be written is read back. -/
theorem read_of_writable {s : Text} (h : tree.Writable path place)
    (hnode : tree.node? place = some (.file (.text s))) : tree.read path = .ok s := by
  have hslash : Path.endsInSlash path = false := by
    have hname := h.name
    rw [Path.endsInName, Bool.and_eq_true, Bool.not_eq_true'] at hname
    exact hname.1
  exact read_eq_ok_iff.mpr
    (lookup_eq_ok_iff.mpr ⟨place, h.leads, look_eq_ok_iff.mpr ⟨h.short, hnode⟩, .inr hslash⟩)

end StateOverlay.Directory
