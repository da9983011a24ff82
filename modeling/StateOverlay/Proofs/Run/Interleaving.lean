/-
Runs side by side.

Two runs take their steps on the same files in any order.  If no path of one meets a path of the
other, neither sees what the other does: at every moment each run is where it would be alone, with
the same files beside those of the other.  So each comes to the end that it has alone, and the files
that are left are those of the two runs one after the other.

* `Concurrent`, `Concurrent.Step` — two procedures on the same files, and a step of either;
* `Concurrent.acc_step` — their steps come to an end;
* `Tracks` — how a procedure that keeps to its paths follows its course alone;
* `Tracks.own_step`, `Tracks.other_step`, `tracks_of_reaches` — it does so through every step;
* `node?_eq_of_stopped` — all ways to the end leave the same files;
* `runs_do_not_interfere` — two runs whose paths lie apart.
-/
import Mathlib.Logic.Relation
import Mathlib.Order.GameAdd
import StateOverlay.Proofs.Run.Footprint

namespace StateOverlay

open Procedure Relation

variable {α β : Type}

namespace Procedure

/-- What a procedure has come to, if nothing is left of it to do. -/
def result? : Procedure α → Option (Except RunError α)
  | done value => some (.ok value)
  | fail error => some (.error error)
  | _ => none

/-- Whether a procedure is what a step leaves of another. -/
def Follows (rest procedure : Procedure α) : Prop :=
  ∃ tree next, procedure.step? tree = some (rest, next)

/-- A procedure takes no infinite number of steps, whatever the files are at each of them. -/
theorem acc_follows (procedure : Procedure α) : Acc Follows procedure := by
  induction procedure with
  | done value => exact .intro _ fun rest ⟨_, _, hstep⟩ => nomatch hstep
  | fail error => exact .intro _ fun rest ⟨_, _, hstep⟩ => nomatch hstep
  | report event next ih =>
    refine .intro _ fun rest ⟨tree, after, hstep⟩ => ?_
    cases hstep
    exact ih
  | read path next ih =>
    refine .intro _ fun rest ⟨tree, after, hstep⟩ => ?_
    cases hstep
    exact ih _
  | isThere path next ih =>
    refine .intro _ fun rest ⟨tree, after, hstep⟩ => ?_
    cases hstep
    exact ih _
  | write path contents next ih =>
    refine .intro _ fun rest ⟨tree, after, hstep⟩ => ?_
    obtain ⟨answer, written, hwrite⟩ := exists_step?_write path contents next tree
    cases hwrite.symm.trans hstep
    exact ih answer

end Procedure

/-! ### Two procedures on the same files -/

/-- Two procedures, as far as they are not carried out yet, and the files they share. -/
structure Concurrent (α β : Type) where
  left : Procedure α
  right : Procedure β
  tree : Directory

namespace Concurrent

/-- One step of either procedure. -/
inductive Step : Concurrent α β → Concurrent α β → Prop
  | left {left rest : Procedure α} {right : Procedure β} {tree next : Directory}
    (h : left.step? tree = some (rest, next)) : Step ⟨left, right, tree⟩ ⟨rest, right, next⟩
  | right {left : Procedure α} {right rest : Procedure β} {tree next : Directory}
    (h : right.step? tree = some (rest, next)) : Step ⟨left, right, tree⟩ ⟨left, rest, next⟩

/-- Both procedures are at their ends. -/
def Stopped (state : Concurrent α β) : Prop := ∀ next, ¬ Step state next

/-- Two procedures the other way around. -/
def swap (state : Concurrent α β) : Concurrent β α := ⟨state.right, state.left, state.tree⟩

theorem Step.swap {state next : Concurrent α β} (h : Step state next) :
    Step state.swap next.swap := by
  cases h with
  | left h => exact .right h
  | right h => exact .left h

theorem stopped_iff {left : Procedure α} {right : Procedure β} {tree : Directory} :
    Stopped ⟨left, right, tree⟩ ↔ left.step? tree = none ∧ right.step? tree = none := by
  constructor
  · intro h
    constructor
    · by_contra hsome
      obtain ⟨⟨rest, next⟩, hstep⟩ := Option.ne_none_iff_exists'.mp hsome
      exact h _ (.left hstep)
    · by_contra hsome
      obtain ⟨⟨rest, next⟩, hstep⟩ := Option.ne_none_iff_exists'.mp hsome
      exact h _ (.right hstep)
  · rintro ⟨hleft, hright⟩ next hstep
    cases hstep with
    | left h => cases hleft.symm.trans h
    | right h => cases hright.symm.trans h

/-- Two procedures take no infinite number of steps, in whatever order. -/
theorem acc_step (state : Concurrent α β) : Acc (fun next state => Step state next) state := by
  have hpair := (acc_follows state.left).prod_gameAdd (acc_follows state.right)
  have hstate : Acc (InvImage (Prod.GameAdd Follows Follows)
      fun state : Concurrent α β => (state.left, state.right)) state :=
    InvImage.accessible _ hpair
  refine Subrelation.accessible ?_ hstate
  intro next state hstep
  cases hstep with
  | left h => exact .fst ⟨_, _, h⟩
  | right h => exact .snd ⟨_, _, h⟩

/-- One way to the end of the left procedure is to carry it out at once. -/
theorem exists_reaches_left (left : Procedure α) (right : Procedure β) (tree : Directory) :
    ∃ rest, (∀ tree, rest.step? tree = none) ∧
      ReflTransGen Step ⟨left, right, tree⟩ ⟨rest, right, (left.run tree).tree⟩ := by
  induction left generalizing tree with
  | done value => exact ⟨_, fun _ => rfl, .refl⟩
  | fail error => exact ⟨_, fun _ => rfl, .refl⟩
  | report event next ih =>
    obtain ⟨rest, hend, hreach⟩ := ih tree
    exact ⟨rest, hend, .head (.left rfl) hreach⟩
  | read path next ih =>
    obtain ⟨rest, hend, hreach⟩ := ih (tree.read path) tree
    exact ⟨rest, hend, .head (.left rfl) hreach⟩
  | isThere path next ih =>
    obtain ⟨rest, hend, hreach⟩ := ih (tree.isThere path) tree
    exact ⟨rest, hend, .head (.left rfl) hreach⟩
  | write path contents next ih =>
    obtain ⟨answer, written, hstep⟩ := exists_step?_write path contents next tree
    obtain ⟨rest, hend, hreach⟩ := ih answer written
    rw [(run_step hstep).1] at hreach
    exact ⟨rest, hend, .head (.left hstep) hreach⟩

/-- One way to the end of both is to carry out the left procedure and then the right one. -/
theorem exists_stopped_left_first (left : Procedure α) (right : Procedure β) (tree : Directory) :
    ∃ final, ReflTransGen Step ⟨left, right, tree⟩ final ∧ Stopped final ∧
      final.tree = (right.run (left.run tree).tree).tree := by
  obtain ⟨leftRest, hleft, hfirst⟩ := exists_reaches_left left right tree
  obtain ⟨rightRest, hright, hsecond⟩ :=
    exists_reaches_left right leftRest (left.run tree).tree
  exact ⟨⟨leftRest, rightRest, (right.run (left.run tree).tree).tree⟩,
    hfirst.trans (hsecond.lift swap fun _ _ => Step.swap),
    stopped_iff.mpr ⟨hleft _, hright _⟩, rfl⟩

theorem exists_stopped_right_first (left : Procedure α) (right : Procedure β) (tree : Directory) :
    ∃ final, ReflTransGen Step ⟨left, right, tree⟩ final ∧ Stopped final ∧
      final.tree = (left.run (right.run tree).tree).tree := by
  obtain ⟨⟨rightRest, leftRest, last⟩, hreach, hstopped, htree⟩ :=
    exists_stopped_left_first right left tree
  exact ⟨⟨leftRest, rightRest, last⟩, hreach.lift swap fun _ _ => Step.swap,
    stopped_iff.mpr (stopped_iff.mp hstopped).symm, htree⟩

end Concurrent

/-! ### A procedure beside another -/

/-- No path of some leads to the place where one of some others ends, nor the other way around.  So
it is if none of them is equal to one of the others, or a directory that the other goes through. -/
def Apart (tree : Directory) (paths others : List Path) : Prop :=
  ∀ path ∈ paths, ∀ other ∈ others, ¬ tree.Meets path other ∧ ¬ tree.Meets other path

instance (tree : Directory) (paths others : List Path) : Decidable (Apart tree paths others) :=
  inferInstanceAs (Decidable (∀ path ∈ paths, ∀ other ∈ others,
    ¬ tree.Meets path other ∧ ¬ tree.Meets other path))

section Places

variable {initial : Directory} {paths others : List Path}

theorem Apart.symm (h : Apart initial paths others) : Apart initial others paths :=
  fun other hother path hpath => (h path hpath other hother).symm

/-- Paths that lie apart lead to different places. -/
theorem Apart.place?_ne (h : Apart initial paths others) {other : Path} (hother : other ∈ others)
    {place : Place} (hplace : initial.place? other = some place) :
    ∀ path ∈ paths, initial.place? path ≠ some place := by
  intro path hpath hleads
  refine (h path hpath other hother).1 ?_
  rw [Directory.Meets, hleads, Directory.reach_of_place? hplace]

end Places

/-- What is left of a procedure beside others follows its course alone: there it would have come to
some files that differ from those of now at the paths of the others only, and from there it goes on
to the end that it has from its start. -/
structure Tracks (paths others : List Path) (whole : Procedure α) (initial : Directory)
    (now : Procedure α) (tree alone : Directory) : Prop where
  within : now.Within paths fun _ => True
  tree_dirs : Directory.SameDirectories initial tree
  alone_dirs : Directory.SameDirectories initial alone
  agree : Directory.AgreeOutside initial others tree alone
  result : (now.run alone).result = (whole.run initial).result
  final : (now.run alone).tree = (whole.run initial).tree

section Tracks

variable {paths others : List Path} {whole now rest : Procedure α}
  {initial tree next alone : Directory}

theorem Tracks.start (others : List Path) (h : whole.Within paths fun _ => True)
    (initial : Directory) : Tracks paths others whole initial whole initial initial :=
  ⟨h, .refl initial, .refl initial, .refl initial others initial, rfl, rfl⟩

/-- A step of the procedure is one that it takes alone. -/
theorem Tracks.own_step (h : Tracks paths others whole initial now tree alone)
    (hapart : Apart initial paths others) (hstep : now.step? tree = some (rest, next)) :
    ∃ alone', Tracks paths others whole initial rest next alone' := by
  have hend : ∀ path ∈ paths, tree.node? (tree.reach path) = alone.node? (tree.reach path) :=
    fun path hpath =>
      h.agree.node?_reach_eq h.tree_dirs fun other hother => (hapart path hpath other hother).2
  obtain ⟨alone', hstep', hagree⟩ :=
    h.within.step?_congr hstep (h.tree_dirs.symm.trans h.alone_dirs) hend
  obtain ⟨htree, hresult⟩ := run_step hstep'
  exact ⟨alone', h.within.step? hstep, h.tree_dirs.trans (sameDirectories_step hstep),
    h.alone_dirs.trans (sameDirectories_step hstep'), hagree initial others h.agree,
    hresult.trans h.result, htree.trans h.final⟩

/-- A step of something that keeps to the paths of the others makes no difference to it. -/
theorem Tracks.other_step (h : Tracks paths others whole initial now tree alone)
    (hdirs : Directory.SameDirectories tree next)
    (hagree : Directory.AgreeOutside initial others tree next) :
    Tracks paths others whole initial now next alone :=
  ⟨h.within, h.tree_dirs.trans hdirs, h.alone_dirs, hagree.symm.trans h.agree, h.result, h.final⟩

/-- At its end the procedure has come to what it comes to alone, and the files too, except for those
of the others. -/
theorem Tracks.stop (h : Tracks paths others whole initial now tree alone)
    (hend : now.step? tree = none) :
    now.result? = some (whole.run initial).result ∧
      Directory.AgreeOutside initial others tree (whole.run initial).tree := by
  rw [← h.result, ← h.final]
  rcases done_or_fail_of_step? hend with ⟨value, rfl⟩ | ⟨error, rfl⟩
  · exact ⟨rfl, h.agree⟩
  · exact ⟨rfl, h.agree⟩

end Tracks

/-! ### Two procedures that lie apart -/

section Apart

open Concurrent

variable {paths others : List Path} {left : Procedure α} {right : Procedure β}
  (hleft : left.Within paths fun _ => True) (hright : right.Within others fun _ => True)
  {initial : Directory} (hapart : Apart initial paths others)

include hleft hright hapart

/-- Through every step each procedure follows its course alone. -/
theorem tracks_of_reaches {state : Concurrent α β}
    (hreach : ReflTransGen Step ⟨left, right, initial⟩ state) :
    (∃ alone, Tracks paths others left initial state.left state.tree alone) ∧
      ∃ alone, Tracks others paths right initial state.right state.tree alone := by
  induction hreach with
  | refl => exact ⟨⟨_, .start others hleft initial⟩, ⟨_, .start paths hright initial⟩⟩
  | tail _ hstep ih =>
    obtain ⟨⟨alone, htracks⟩, alone', htracks'⟩ := ih
    cases hstep with
    | left h =>
      have hagree := htracks.within.agreeOutside htracks.tree_dirs h
      exact ⟨htracks.own_step hapart h, _, htracks'.other_step (sameDirectories_step h) hagree⟩
    | right h =>
      have hagree := htracks'.within.agreeOutside htracks'.tree_dirs h
      exact ⟨⟨_, htracks.other_step (sameDirectories_step h) hagree⟩,
        htracks'.own_step hapart.symm h⟩

/-- At the end of both, each has come to what it comes to alone, and so have the files beside those
of the other. -/
theorem ends_of_stopped {state : Concurrent α β}
    (hreach : ReflTransGen Step ⟨left, right, initial⟩ state) (hstopped : Stopped state) :
    (state.left.result? = some (left.run initial).result ∧
      Directory.AgreeOutside initial others state.tree (left.run initial).tree) ∧
    (state.right.result? = some (right.run initial).result ∧
      Directory.AgreeOutside initial paths state.tree (right.run initial).tree) := by
  obtain ⟨⟨alone, htracks⟩, alone', htracks'⟩ :=
    tracks_of_reaches hleft hright hapart hreach
  obtain ⟨hend, hend'⟩ := stopped_iff.mp hstopped
  exact ⟨htracks.stop hend, htracks'.stop hend'⟩

/-- All ways to the end leave the same files. -/
theorem node?_eq_of_stopped {state other : Concurrent α β}
    (hreach : ReflTransGen Step ⟨left, right, initial⟩ state) (hstopped : Stopped state)
    (hreach' : ReflTransGen Step ⟨left, right, initial⟩ other) (hstopped' : Stopped other) :
    state.tree.node? = other.tree.node? := by
  obtain ⟨⟨_, hfirst⟩, _, hsecond⟩ :=
    ends_of_stopped hleft hright hapart hreach hstopped
  obtain ⟨⟨_, hfirst'⟩, _, hsecond'⟩ :=
    ends_of_stopped hleft hright hapart hreach' hstopped'
  funext place
  -- a place to which no path of the right procedure leads is as the left one leaves it alone
  by_cases hplace : ∃ other ∈ others, initial.place? other = some place
  · obtain ⟨other, hother, hleads⟩ := hplace
    have hpaths := hapart.place?_ne hother hleads
    exact (hsecond place hpaths).trans (hsecond' place hpaths).symm
  · have hothers : ∀ other ∈ others, initial.place? other ≠ some place :=
      fun other hother hleads => hplace ⟨other, hother, hleads⟩
    exact (hfirst place hothers).trans (hfirst' place hothers).symm

end Apart

/-- Two runs whose paths lie apart do not interfere: in whatever order their steps are taken they
come to an end, each with the result that it has alone, and with the files of one run after the
other. -/
theorem runs_do_not_interfere {config config' : Config} {dryRun dryRun' : Bool}
    {header header' : Path} {initial : Directory}
    (hapart : Apart initial (runPaths config header) (runPaths config' header')) :
    let left := transform config dryRun header
    let right := transform config' dryRun' header'
    Acc (fun next state => Concurrent.Step state next) ⟨left, right, initial⟩ ∧
    ∀ final, ReflTransGen Concurrent.Step ⟨left, right, initial⟩ final → final.Stopped →
      final.left.result? = some (left.run initial).result ∧
      final.right.result? = some (right.run initial).result ∧
      final.tree.node? = (right.run (left.run initial).tree).tree.node? ∧
      final.tree.node? = (left.run (right.run initial).tree).tree.node? := by
  intro left right
  have hleft := within_transform config dryRun header
  have hright := within_transform config' dryRun' header'
  refine ⟨Concurrent.acc_step _, fun final hreach hstopped => ?_⟩
  obtain ⟨⟨hresult, _⟩, hresult', _⟩ :=
    ends_of_stopped hleft hright hapart hreach hstopped
  obtain ⟨leftFirst, hreachLeft, hstoppedLeft, htreeLeft⟩ :=
    Concurrent.exists_stopped_left_first left right initial
  obtain ⟨rightFirst, hreachRight, hstoppedRight, htreeRight⟩ :=
    Concurrent.exists_stopped_right_first left right initial
  refine ⟨hresult, hresult', ?_, ?_⟩
  · rw [← htreeLeft]
    exact node?_eq_of_stopped hleft hright hapart hreach hstopped hreachLeft hstoppedLeft
  · rw [← htreeRight]
    exact node?_eq_of_stopped hleft hright hapart hreach hstopped hreachRight hstoppedRight

/-- A run in one directory beside a run in another that lacks its header; the path of each leads
through the directory of the other. -/
theorem runs_do_not_interfere_failing :
    let a := Text.bytes "a".toList
    let b := Text.bytes "b".toList
    let header := Text.bytes "b/../a/h.h".toList
    let missing := Text.bytes "a/../b/h.h".toList
    let initial : Directory :=
      { entries := [([a], .directory), ([b], .directory),
          ([a, Text.bytes "h.h".toList], .file (.text "static int x;\n".toList))] }
    let left := transform {} false header
    let right := transform {} false missing
    ∀ final, ReflTransGen Concurrent.Step ⟨left, right, initial⟩ final → final.Stopped →
      final.left.result? = some (left.run initial).result ∧
      final.right.result? = some (.error (.read missing .notFound)) ∧
      final.tree.node? = (left.run initial).tree.node? := by
  intro a b header missing initial left right final hreach hstopped
  have hapart : Apart initial (runPaths {} header) (runPaths {} missing) := by decide +kernel
  have hresult : (right.run initial).result = .error (.read missing .notFound) := by rfl
  have htree : (right.run initial).tree = initial := by rfl
  obtain ⟨hleft, hright, _, hfiles⟩ :=
    (@runs_do_not_interfere {} {} false false _ _ _ hapart).2 final hreach hstopped
  rw [hresult] at hright
  rw [htree] at hfiles
  exact ⟨hleft, hright, hfiles⟩

end StateOverlay
