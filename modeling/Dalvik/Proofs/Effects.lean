import Dalvik.Proofs.Triples

/-!
# Effects of runs

What a run leaves alone, what it does not look at, and how it may fail. `LeavesFrame` is about runs
that work on the lineage only; `Agrees` about runs that go in step from related executions, and
`Blind` about those for which it makes no difference what was reported before and which result the
active frame has; `FailsWith` about the failures that a run can end with. Like the triples, each has
one rule for each way to put runs together.
-/

namespace Dalvik

namespace Script

variable {ρ : Type} {Answer : ρ → Type} {α : Type}

/-- The script asks for nothing that is not `allowed`, whatever it is answered. -/
def Asks (allowed : ρ → Prop) : Script ρ Answer α → Prop
  | .done _ | .fail _ => True
  | .ask request next => allowed request ∧ ∀ answer, (next answer).Asks allowed

theorem asks_true (script : Script ρ Answer α) : script.Asks fun _ => True := by
  induction script with
  | done => trivial
  | fail => trivial
  | ask request next ih => exact ⟨trivial, ih⟩

end Script

/-- The frame with a result. -/
def Frame.returning (frame : Frame) (value : Option Value) : Frame :=
  { frame with registers := frame.registers.setReturn value }

/-- The frame in which the last call had this result. -/
def Frame.receiving (frame : Frame) (result : Option Value) : Frame :=
  { frame with registers := frame.registers.setInvokeResult result }

/-- The execution with these registers in its frame. -/
def Execution.withRegisters (e : Execution) (registers : Registers) : Execution :=
  { e with frame := { e.frame with registers } }

/-- The executions differ at most in what was reported and in the result of the active frame. -/
structure Execution.Similar (e e' : Execution) : Prop where
  lineage : e'.lineage = e.lineage
  frame : e'.frame = e.frame.returning e'.frame.registers.returnValue

theorem Execution.Similar.refl (e : Execution) : e.Similar e :=
  ⟨rfl, rfl⟩

namespace Run

variable {α β : Type}

theorem reportTraced_apply (event : Event) (e : Execution) :
    reportTraced event e = (.ok (), if e.frame.registers.traced = true then
      { e with log := e.log ++ [event] } else e) := by
  show (if e.frame.registers.traced = true then report event else Pure.pure () : Run Unit) e = _
  split <;> rfl

theorem assignReturn_apply (value : Value) (e : Execution) :
    (assignReturn value e).1 = .ok () ∧
      (assignReturn value e).2.frame = e.frame.returning (some value) := by
  unfold assignReturn
  rw [bind_apply, reportTraced_apply]
  refine ⟨rfl, ?_⟩
  show Frame.returning (Execution.frame (if _ then _ else _)) _ = _
  split <;> rfl

theorem assignInvokeResult_apply (value : Value) (e : Execution) :
    (assignInvokeResult value e).1 = .ok () ∧
      (assignInvokeResult value e).2.frame = e.frame.receiving (some value) := by
  unfold assignInvokeResult
  rw [bind_apply, reportTraced_apply]
  refine ⟨rfl, ?_⟩
  show Frame.receiving (Execution.frame (if _ then _ else _)) _ = _
  split <;> rfl

/-- The read of a parameter that has a value is reported, and one that fails does nothing. -/
theorem readParameter_apply (parameter : Nat) (e : Execution) :
    readParameter parameter e =
      match e.frame.registers.readParameter parameter with
      | .ok (register, value) =>
        (.ok value, (reportTraced (.parameterRead parameter register value) e).2)
      | .error fault => (.error (.fault fault), e) := by
  show (ofExcept (e.frame.registers.readParameter parameter) >>= _ : Run Value) e = _
  rw [bind_apply]
  rcases e.frame.registers.readParameter parameter with fault | ⟨register, value⟩
  · rfl
  · exact bind_of_ok (congrArg Prod.fst (reportTraced_apply _ e))

theorem readParameter_result (parameter : Nat) (e : Execution) :
    (readParameter parameter e).1 =
      match e.frame.registers.readParameter parameter with
      | .ok (_, value) => .ok value
      | .error fault => .error (.fault fault) := by
  rw [readParameter_apply]
  rcases e.frame.registers.readParameter parameter with fault | ⟨register, value⟩ <;> rfl

theorem readParameter_ok {parameter start : Nat} {value : Value} {e : Execution}
    (h : e.frame.registers.readParameter parameter = .ok (start, value)) :
    (readParameter parameter e).1 = .ok value := by
  rw [readParameter_result, h]

theorem readParameter_error {parameter : Nat} {fault : Fault} {e : Execution}
    (h : e.frame.registers.readParameter parameter = .error fault) :
    (readParameter parameter e).1 = .error (.fault fault) := by
  rw [readParameter_result, h]

/-! ## The active frame -/

/-- The run leaves the active frame as it is. -/
def LeavesFrame (action : Run α) : Prop :=
  ∀ e, (action e).2.frame = e.frame

theorem LeavesFrame.pure (answer : α) : LeavesFrame (Pure.pure answer) := fun _ => rfl

theorem LeavesFrame.throw (failure : Failure) :
    LeavesFrame (MonadExcept.throw failure : Run α) := fun _ => rfl

theorem LeavesFrame.bind {action : Run α} {next : α → Run β} (h : LeavesFrame action)
    (hnext : ∀ answer, LeavesFrame (next answer)) : LeavesFrame (action >>= next) := by
  intro e
  have hframe := h e
  rw [bind_apply]
  generalize action e = out at hframe ⊢
  obtain ⟨failure | answer, e'⟩ := out
  · exact hframe
  · exact (hnext answer e').trans hframe

theorem LeavesFrame.attempt {action : Run α} (h : LeavesFrame action) :
    LeavesFrame (attempt action) := h

theorem LeavesFrame.ofExcept (result : Except Fault α) : LeavesFrame (ofExcept result) := by
  cases result <;> exact fun _ => rfl

theorem LeavesFrame.ite {condition : Prop} [Decidable condition] {action other : Run α}
    (h : LeavesFrame action) (hother : LeavesFrame other) :
    LeavesFrame (if condition then action else other) := by
  split
  · exact h
  · exact hother

theorem LeavesFrame.frame : LeavesFrame frame := fun _ => rfl

theorem LeavesFrame.registers : LeavesFrame registers := fun _ => rfl

theorem LeavesFrame.lineage : LeavesFrame lineage := fun _ => rfl

theorem LeavesFrame.report (event : Event) : LeavesFrame (report event) := fun _ => rfl

theorem LeavesFrame.note (text : String) : LeavesFrame (note text) := fun _ => rfl

theorem LeavesFrame.modifyLineage (f : Lineage → Lineage) : LeavesFrame (modifyLineage f) :=
  fun _ => rfl

theorem LeavesFrame.mark (type : TypeDescriptor) (step : StaticStep) :
    LeavesFrame (mark type step) := by
  intro e
  rw [mark_apply]
  split <;> rfl

theorem LeavesFrame.reportTraced (event : Event) : LeavesFrame (reportTraced event) :=
  .bind .registers fun _ => .ite (.report _) (.pure _)

theorem LeavesFrame.readParameter (parameter : Nat) : LeavesFrame (readParameter parameter) :=
  .bind .registers fun _ => .bind (.ofExcept _) fun _ => .bind (.reportTraced _) fun _ => .pure _

/-! ## Runs that go in step -/

/-- From related executions, the run ends with one result and in related executions. -/
def Agrees (R : Execution → Execution → Prop) (action : Run α) : Prop :=
  ∀ e e', R e e' → (action e').1 = (action e).1 ∧ R (action e).2 (action e').2

section Agreement

variable {R : Execution → Execution → Prop}

theorem Agrees.pure (answer : α) : Agrees R (Pure.pure answer) := fun _ _ h => ⟨rfl, h⟩

theorem Agrees.throw (failure : Failure) : Agrees R (MonadExcept.throw failure : Run α) :=
  fun _ _ h => ⟨rfl, h⟩

theorem Agrees.bind {action : Run α} {next : α → Run β} (h : Agrees R action)
    (hnext : ∀ answer, Agrees R (next answer)) : Agrees R (action >>= next) := by
  intro e e' hrelated
  obtain ⟨hresult, hafter⟩ := h e e' hrelated
  simp only [bind_apply]
  generalize action e = out at hresult hafter ⊢
  generalize action e' = out' at hresult hafter ⊢
  obtain ⟨failure | answer, after⟩ := out <;> obtain ⟨result, after'⟩ := out' <;> cases hresult
  · exact ⟨rfl, hafter⟩
  · exact hnext answer after after' hafter

theorem Agrees.attempt {action : Run α} (h : Agrees R action) : Agrees R (attempt action) := by
  intro e e' hrelated
  obtain ⟨hresult, hafter⟩ := h e e' hrelated
  exact ⟨congrArg Except.ok hresult, hafter⟩

theorem Agrees.ofExcept (result : Except Fault α) : Agrees R (ofExcept result) := by
  cases result <;> exact fun _ _ h => ⟨rfl, h⟩

end Agreement

/-! ## What makes no difference -/

/-- From similar executions, the run ends with one result and in similar executions. -/
def Blind (action : Run α) : Prop :=
  ∀ e e', e.Similar e' → (action e').1 = (action e).1 ∧ (action e).2.Similar (action e').2

theorem Blind.pure (answer : α) : Blind (Pure.pure answer) := Agrees.pure answer

theorem Blind.throw (failure : Failure) : Blind (MonadExcept.throw failure : Run α) :=
  Agrees.throw failure

theorem Blind.bind {action : Run α} {next : α → Run β} (h : Blind action)
    (hnext : ∀ answer, Blind (next answer)) : Blind (action >>= next) :=
  Agrees.bind h hnext

theorem Blind.attempt {action : Run α} (h : Blind action) : Blind (attempt action) :=
  Agrees.attempt h

theorem Blind.ofExcept (result : Except Fault α) : Blind (ofExcept result) := Agrees.ofExcept result

theorem Blind.report (event : Event) : Blind (report event) :=
  fun _ _ h => ⟨rfl, h.lineage, h.frame⟩

theorem Blind.note (text : String) : Blind (note text) :=
  fun _ _ h => ⟨rfl, h.lineage, h.frame⟩

theorem Blind.lineage : Blind lineage :=
  fun _ _ h => ⟨congrArg Except.ok h.lineage, h⟩

theorem Blind.modifyLineage (f : Lineage → Lineage) : Blind (modifyLineage f) :=
  fun _ _ h => ⟨rfl, congrArg f h.lineage, h.frame⟩

theorem Blind.mark (type : TypeDescriptor) (step : StaticStep) : Blind (mark type step) := by
  intro e e' h
  rw [mark_apply, mark_apply, h.lineage]
  split
  · exact ⟨rfl, h⟩
  · exact ⟨rfl, rfl, h.frame⟩

/-- Of the frame, all may be looked at that is the same whatever the result is. -/
theorem Blind.look_bind {γ δ : Type} {action : Run γ} (read : Frame → γ) (look : γ → δ)
    (next : δ → Run β) (haction : ∀ e, action e = (.ok (read e.frame), e))
    (hlook : ∀ frame value, look (read (frame.returning value)) = look (read frame))
    (hnext : ∀ found, Blind (next found)) : Blind (action >>= fun found => next (look found)) := by
  intro e e' h
  simp only [bind_apply, haction]
  rw [h.frame, hlook]
  exact hnext _ e e' h

theorem Blind.depth_bind {next : Nat → Run β} (hnext : ∀ depth, Blind (next depth)) :
    Blind (frame >>= fun frame => next frame.depth) :=
  .look_bind id Frame.depth next (fun _ => rfl) (fun _ _ => rfl) hnext

theorem Blind.reportTraced (event : Event) : Blind (reportTraced event) := by
  refine .look_bind Frame.registers Registers.traced
    (fun traced => if traced then Run.report event else Pure.pure ()) (fun _ => rfl)
    (fun _ _ => rfl) fun traced => ?_
  cases traced
  · exact .pure ()
  · exact .report event

theorem Blind.readParameter (parameter : Nat) : Blind (readParameter parameter) :=
  .look_bind Frame.registers (Registers.readParameter · parameter)
    (fun found => Run.ofExcept found >>= fun read =>
      Run.reportTraced (.parameterRead parameter read.1 read.2) >>= fun _ => Pure.pure read.2)
    (fun _ => rfl) (fun _ _ => rfl)
    fun found => .bind (.ofExcept found) fun _ => .bind (.reportTraced _) fun _ => .pure _

theorem Blind.assignReturn (value : Value) : Blind (assignReturn value) := by
  refine .bind (.reportTraced _) fun _ e e' h => ⟨rfl, h.lineage, ?_⟩
  show e'.frame.returning (some value) = _
  rw [h.frame]
  rfl

/-! ## Failures -/

/-- Every failure of the run is one of these. -/
def FailsWith (expected : Failure → Prop) (action : Run α) : Prop :=
  ∀ e failure, (action e).1 = .error failure → expected failure

variable {expected : Failure → Prop}

theorem FailsWith.of_ok {action : Run α} (h : ∀ e, ∃ answer, (action e).1 = .ok answer) :
    FailsWith expected action := by
  intro e failure hfailure
  obtain ⟨answer, hok⟩ := h e
  cases hok.symm.trans hfailure

theorem FailsWith.pure (answer : α) : FailsWith expected (Pure.pure answer) :=
  .of_ok fun _ => ⟨answer, rfl⟩

theorem FailsWith.throw {failure : Failure} (h : expected failure) :
    FailsWith expected (MonadExcept.throw failure : Run α) := by
  rintro e _ ⟨⟩
  exact h

theorem FailsWith.bind {action : Run α} {next : α → Run β} (h : FailsWith expected action)
    (hnext : ∀ answer, FailsWith expected (next answer)) :
    FailsWith expected (action >>= next) := by
  intro e failure hfailure
  have haction := h e
  rw [bind_apply] at hfailure
  generalize action e = out at haction hfailure
  obtain ⟨caught | answer, e'⟩ := out
  · obtain rfl : caught = failure := by cases hfailure; rfl
    exact haction caught rfl
  · exact hnext answer e' failure hfailure

theorem FailsWith.ofExcept {result : Except Fault α}
    (h : ∀ fault, result = .error fault → expected (.fault fault)) :
    FailsWith expected (ofExcept result) := by
  cases result with
  | ok answer => exact .pure answer
  | error fault => exact .throw (h fault rfl)

theorem FailsWith.mono {narrow : Failure → Prop} {action : Run α} (h : FailsWith narrow action)
    (himp : ∀ failure, narrow failure → expected failure) : FailsWith expected action :=
  fun e failure hfailure => himp failure (h e failure hfailure)

/-- A failure that is caught is handed on, and may be the failure in the end. -/
theorem FailsWith.attempt_bind {caught : Failure → Prop} {action : Run α}
    {next : Except Failure α → Run β} (h : FailsWith caught action)
    (hnext : ∀ result, (∀ failure, result = .error failure → caught failure) →
      FailsWith expected (next result)) :
    FailsWith expected (Run.attempt action >>= next) :=
  fun e => hnext _ (h e) _

end Run

end Dalvik
