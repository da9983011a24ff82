/-
What a run asks of the files around it.

A procedure is a run before it is carried out: a tree of single steps on files and of reports, each
step continued by what its answer is.  The same procedure can be carried out on a directory tree,
which is how a run is reasoned about, or on the files of a machine, and it can be stopped between
any two steps.

* `run` — carries a procedure out on a directory tree;
* `run_bind` — a procedure that continues another carries on with the tree the other leaves;
* `attempt` — turns the failure of a procedure into a value.
-/
import StateOverlay.Log.Event
import StateOverlay.Run.Error

namespace StateOverlay

/-- A run of the library, step by step. -/
inductive Procedure (α : Type) where
  | done (value : α)
  | fail (error : RunError)
  | report (event : Event) (next : Procedure α)
  | read (path : Path) (next : Except FileFault Text → Procedure α)
  | isThere (path : Path) (next : Bool → Procedure α)
  | write (path : Path) (contents : Text) (next : Except FileFault Unit → Procedure α)

/-- What carrying out a procedure comes to. -/
structure Outcome (α : Type) where
  /-- The files afterwards. -/
  tree : Directory
  /-- What was reported, in order. -/
  events : List Event
  result : Except RunError α

namespace Procedure

/-- Continues a procedure with its value. -/
protected def bind {α β : Type} : Procedure α → (α → Procedure β) → Procedure β
  | done value, f => f value
  | fail error, _ => fail error
  | report event next, f => report event (next.bind f)
  | read path next, f => read path fun answer => (next answer).bind f
  | isThere path next, f => isThere path fun answer => (next answer).bind f
  | write path contents next, f => write path contents fun answer => (next answer).bind f

instance : Monad Procedure where
  pure := done
  bind := Procedure.bind

/-- A procedure that does not fail: its failure is a value like any other. -/
def attempt {α : Type} : Procedure α → Procedure (Except RunError α)
  | done value => done (.ok value)
  | fail error => done (.error error)
  | report event next => report event next.attempt
  | read path next => read path fun answer => (next answer).attempt
  | isThere path next => isThere path fun answer => (next answer).attempt
  | write path contents next => write path contents fun answer => (next answer).attempt

/-- Carries out a procedure on a directory tree. -/
def run {α : Type} : Procedure α → Directory → Outcome α
  | done value, tree => { tree, events := [], result := .ok value }
  | fail error, tree => { tree, events := [], result := .error error }
  | report event next, tree =>
    let outcome := next.run tree
    { outcome with events := event :: outcome.events }
  | read path next, tree => (next (tree.read path)).run tree
  | isThere path next, tree => (next (tree.isThere path)).run tree
  | write path contents next, tree =>
    match tree.write path contents with
    | .ok written => (next (.ok ())).run written
    | .error fault => (next (.error fault)).run tree

/-- A continued procedure starts from the tree that the first one leaves, and reports after it; the
failure of the first one ends both. -/
theorem run_bind {α β : Type} (procedure : Procedure α) (f : α → Procedure β) (tree : Directory) :
    (procedure.bind f).run tree =
      match (procedure.run tree).result with
      | .ok value =>
        let outcome := (f value).run (procedure.run tree).tree
        { outcome with events := (procedure.run tree).events ++ outcome.events }
      | .error error =>
        { tree := (procedure.run tree).tree, events := (procedure.run tree).events,
          result := .error error } := by
  induction procedure generalizing tree with
  | done value => simp [Procedure.bind, run]
  | fail error => simp [Procedure.bind, run]
  | report event next ih =>
    simp only [Procedure.bind, run, ih]
    split <;> simp_all
  | read path next ih => simp only [Procedure.bind, run, ih]
  | isThere path next ih => simp only [Procedure.bind, run, ih]
  | write path contents next ih =>
    -- the tree to go on with depends on whether the write succeeds
    simp only [Procedure.bind, run]
    split <;> simp only [ih]

/-- Reports some events, one after another. -/
def reportAll : List Event → Procedure Unit
  | [] => done ()
  | event :: events => report event (reportAll events)

/-- Reads a file, or fails. -/
def readFile (path : Path) : Procedure Text :=
  read path fun
    | .ok source => done source
    | .error fault => fail (.read path fault)

/-- Writes a file, or fails. -/
def writeFile (path : Path) (contents : Text) : Procedure Unit :=
  write path contents fun
    | .ok () => done ()
    | .error fault => fail (.write path fault)

end Procedure

end StateOverlay
