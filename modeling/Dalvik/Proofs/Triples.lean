import Dalvik.Execution

/-!
# Triples for runs

`Meets before action after` says what a run makes of every execution that satisfies `before`,
whether it ends well or fails. There is one rule for each way to put runs together, so that a proof
about a run follows its text. `Keeps` is the special case of a fact about the lineage that the run
does not destroy; runs that only touch the frame or the record keep every such fact.
-/

namespace Dalvik.Run

variable {α β : Type} {P : Execution → Prop} {Q : Except Failure α → Execution → Prop}
  {R : Except Failure β → Execution → Prop}

/-- From every execution that satisfies `before`, the run ends with a result and an execution that
satisfy `after`. -/
def Meets (before : Execution → Prop) (action : Run α)
    (after : Except Failure α → Execution → Prop) : Prop :=
  ∀ execution, before execution → after (action execution).1 (action execution).2

theorem bind_apply (action : Run α) (next : α → Run β) (e : Execution) :
    (action >>= next) e = match action e with
      | (.ok answer, e') => next answer e'
      | (.error failure, e') => (.error failure, e') := by
  simp only [Bind.bind, ExceptT.bind, ExceptT.mk, StateT.bind]
  rcases action e with ⟨failure | answer, e'⟩ <;> rfl

theorem bind_of_ok {action : Run α} {next : α → Run β} {e : Execution} {answer : α}
    (h : (action e).1 = .ok answer) : (action >>= next) e = next answer (action e).2 := by
  rw [bind_apply]
  generalize action e = out at h ⊢
  obtain ⟨_, e'⟩ := out
  obtain rfl := h
  rfl

theorem bind_of_error {action : Run α} {next : α → Run β} {e : Execution} {failure : Failure}
    (h : (action e).1 = .error failure) :
    (action >>= next) e = (.error failure, (action e).2) := by
  rw [bind_apply]
  generalize action e = out at h ⊢
  obtain ⟨_, e'⟩ := out
  obtain rfl := h
  rfl

theorem Meets.bind {action : Run α} {next : α → Run β} (h : Meets P action Q)
    (hok : ∀ answer, Meets (Q (.ok answer)) (next answer) R)
    (herror : ∀ failure e, Q (.error failure) e → R (.error failure) e) :
    Meets P (action >>= next) R := by
  intro e he
  have hq := h e he
  rw [bind_apply]
  generalize action e = out at hq ⊢
  obtain ⟨failure | answer, e'⟩ := out
  · exact herror failure e' hq
  · exact hok answer e' hq

/-- A run whose failure is caught hands its result on. -/
theorem Meets.attempt_bind {action : Run α} {next : Except Failure α → Run β}
    (h : Meets P action Q) (hnext : ∀ result, Meets (Q result) (next result) R) :
    Meets P (attempt action >>= next) R :=
  fun e he => hnext _ _ (h e he)

theorem Meets.ofExcept_bind {result : Except Fault α} {next : α → Run β}
    (hok : ∀ answer, result = .ok answer → Meets P (next answer) R)
    (herror : ∀ fault e, result = .error fault → P e → R (.error (.fault fault)) e) :
    Meets P (ofExcept result >>= next) R := by
  cases result with
  | ok answer => exact hok answer rfl
  | error fault => exact fun e => herror fault e rfl

theorem mark_apply (type : TypeDescriptor) (step : StaticStep) (e : Execution) :
    mark type step e = if e.lineage.isInitialized type = true then (.ok false, e)
      else (.ok true, { e with lineage := (e.lineage.mark type).record step }) := by
  show (if e.lineage.isInitialized type = true then _ else _ : Run Bool) e = _
  split <;> rfl

theorem Meets.mark_bind {type : TypeDescriptor} {step : StaticStep} {before : Lineage}
    {next : Bool → Run β}
    (hold : before.isInitialized type = true → Meets (·.lineage = before) (next false) R)
    (hnew : before.isInitialized type = false →
      Meets (·.lineage = (before.mark type).record step) (next true) R) :
    Meets (·.lineage = before) (mark type step >>= next) R := by
  rintro e rfl
  rw [bind_apply, mark_apply]
  cases h : e.lineage.isInitialized type with
  | true => exact hold h e rfl
  | false => exact hnew h _ rfl

theorem Meets.consequence {action : Run α} {P' : Execution → Prop}
    {Q' : Except Failure α → Execution → Prop} (h : Meets P action Q) (hP : ∀ e, P' e → P e)
    (hQ : ∀ result e, Q result e → Q' result e) : Meets P' action Q' :=
  fun e he => hQ _ _ (h e (hP e he))

/-- What is asked of a run may be asked for each of the executions that it starts in. -/
theorem Meets.each {action : Run α} (h : ∀ e, P e → Meets (· = e) action Q) : Meets P action Q :=
  fun e he => h e he e rfl

/-! ## Facts about the lineage -/

/-- The run does not destroy this fact about the lineage. -/
def Keeps (I : Lineage → Prop) (action : Run α) : Prop :=
  Meets (fun e => I e.lineage) action fun _ e => I e.lineage

variable {I : Lineage → Prop}

theorem Keeps.pure (answer : α) : Keeps I (Pure.pure answer) :=
  fun _ h => h

theorem Keeps.throw (failure : Failure) : Keeps I (MonadExcept.throw failure : Run α) :=
  fun _ h => h

theorem Keeps.bind {action : Run α} {next : α → Run β} (h : Keeps I action)
    (hnext : ∀ answer, Keeps I (next answer)) : Keeps I (action >>= next) :=
  Meets.bind h hnext fun _ _ hi => hi

theorem Keeps.attempt {action : Run α} (h : Keeps I action) : Keeps I (attempt action) :=
  h

theorem Keeps.frame : Keeps I frame := fun _ h => h

theorem Keeps.registers : Keeps I registers := fun _ h => h

theorem Keeps.lineage : Keeps I lineage := fun _ h => h

theorem Keeps.report (event : Event) : Keeps I (report event) := fun _ h => h

theorem Keeps.note (text : String) : Keeps I (note text) := fun _ h => h

theorem Keeps.setRegisters (registers : Registers) : Keeps I (setRegisters registers) :=
  fun _ h => h

theorem Keeps.ofExcept (result : Except Fault α) : Keeps I (ofExcept result) := by
  cases result <;> exact fun _ h => h

theorem Keeps.ite {condition : Prop} [Decidable condition] {action other : Run α}
    (h : Keeps I action) (hother : Keeps I other) :
    Keeps I (if condition then action else other) := by
  split
  · exact h
  · exact hother

theorem Keeps.reportTraced (event : Event) : Keeps I (reportTraced event) :=
  .bind .registers fun _ => .ite (.report event) (.pure _)

theorem Keeps.readParameter (parameter : Nat) : Keeps I (readParameter parameter) :=
  .bind .registers fun _ => .bind (.ofExcept _) fun _ => .bind (.reportTraced _) fun _ => .pure _

theorem Keeps.assignReturn (value : Value) : Keeps I (assignReturn value) :=
  .bind (.reportTraced _) fun _ => .bind .registers fun _ => .setRegisters _

theorem Keeps.assignInvokeResult (value : Value) : Keeps I (assignInvokeResult value) :=
  .bind (.reportTraced _) fun _ => .bind .registers fun _ => .setRegisters _

theorem Keeps.clearInvokeResult : Keeps I clearInvokeResult :=
  .bind .registers fun _ => .setRegisters _

theorem Keeps.takeReturn : Keeps I takeReturn :=
  .bind .registers fun _ => .bind (.setRegisters _) fun _ => .pure _

theorem Keeps.takeInvokeResult : Keeps I takeInvokeResult :=
  .bind .registers fun _ => .bind (.setRegisters _) fun _ => .pure _

theorem Keeps.call (method : String) (arguments : Registers) : Keeps I (call method arguments) :=
  .bind .frame fun _ => .bind (.ofExcept _) fun _ => .bind (.report _) fun _ => .pure _

theorem Keeps.inFrame {action : Run α} (callee : Frame) (h : Keeps I action) :
    Keeps I (inFrame callee action) :=
  fun e he => h { e with frame := callee } he

theorem Keeps.join (callee : Frame) : Keeps I (join callee) := by
  refine .bind (.report _) fun _ => ?_
  cases callee.registers.returnValue with
  | some value => exact .assignInvokeResult value
  | none => exact .clearInvokeResult

theorem Keeps.returnUnknown (type : TypeDescriptor) : Keeps I (returnUnknown type) :=
  .assignReturn _

theorem Keeps.returnAs (type : TypeDescriptor) (value : Value) : Keeps I (returnAs type value) :=
  .bind (.ofExcept _) fun _ => .assignReturn _

/-- A script keeps what every answer to its requests keeps. -/
theorem Keeps.script {ρ : Type} {Answer : ρ → Type} {serve : (request : ρ) → Run (Answer request)}
    (h : ∀ request, Keeps I (serve request)) (script : Script ρ Answer α) :
    Keeps I (script.run serve) := by
  induction script with
  | done answer => exact .pure answer
  | fail failure => exact .throw failure
  | ask request next ih => exact .bind (.attempt (h request)) ih

end Dalvik.Run
