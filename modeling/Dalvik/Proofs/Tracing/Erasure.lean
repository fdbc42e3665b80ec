import Dalvik.Proofs.Calls.Composition
import Dalvik.Proofs.Operations

/-!
# What is traced can be left out

A configuration says which traces are kept. To leave out the others is to turn their flags off in a
frame, and to take their events out of the record. Code that runs after this has been done ends like
code that runs before it, also if the machine traces less from then on: what is traced never decides
anything.
-/

namespace Dalvik

open Run

/-! ## Leaving traces out -/

/-- The event is that of a use of registers. -/
def Event.ofRegisters : Event → Bool
  | .parameterRead _ _ _ | .returnAssigned _ | .invokeResultAssigned _ => true
  | _ => false

/-- The event is that of a dispatch. -/
def Event.ofDispatch : Event → Bool
  | .dispatching _ _ => true
  | _ => false

/-- The event is no trace, or one of those that are kept. -/
def Event.isKept (kept : Tracing) : Event → Bool
  | .parameterRead _ _ _ | .returnAssigned _ | .invokeResultAssigned _ => kept.registers
  | .dispatching _ _ => kept.dispatch
  | _ => true

/-- What is traced and is kept. -/
def Tracing.keeping (kept tracing : Tracing) : Tracing :=
  ⟨kept.registers && tracing.registers, kept.dispatch && tracing.dispatch⟩

section Keeping

variable (kept : Tracing)

/-- The configuration that traces only what is kept. -/
def Config.keeping (config : Config) : Config :=
  { config with tracing := kept.keeping config.tracing }

/-- The machine that traces only what is kept. -/
def Machine.keeping (machine : Machine) : Machine :=
  { machine with config := machine.config.keeping kept }

/-- The registers whose uses are traced only if such traces are kept. -/
def Registers.keeping (registers : Registers) : Registers :=
  registers.setTraced (kept.registers && registers.traced)

/-- The frame of which, and of whose callees, only what is kept is traced. -/
def Frame.keeping (frame : Frame) : Frame :=
  { frame with
    registers := frame.registers.keeping kept
    traced := kept.registers && frame.traced }

/-- The execution in whose record only traces that are kept stand. -/
def Execution.keeping (e : Execution) : Execution :=
  { e with
    frame := e.frame.keeping kept
    log := e.log.filter (Event.isKept kept) }

/-- The action that asks for traces only if they are kept. -/
def Action.keeping : Action → Action
  | .setTraced traced => .setTraced (kept.registers && traced)
  | .replaceRegisters registers => .replaceRegisters (registers.keeping kept)
  | .call arguments signature => .call (arguments.keeping kept) signature
  | action => action

end Keeping

/-- An event that is no trace is kept. -/
theorem Event.isKept_of_level {event : Event} (h : event.level ≠ .trace) (kept : Tracing) :
    event.isKept kept = true := by
  cases event <;> first | rfl | exact absurd rfl h

theorem Event.isKept_of_ofRegisters {event : Event} (h : event.ofRegisters = true)
    (kept : Tracing) : event.isKept kept = kept.registers := by
  cases event <;> first | rfl | cases h

namespace Run

variable {α β : Type} {kept : Tracing} {action action' : Run α} {next next' : α → Run β}

/-- Started in an execution without the traces that are not kept, `action'` ends like `action` does
with them. -/
def Follows (kept : Tracing) (action action' : Run α) : Prop :=
  ∀ e, action' (e.keeping kept) = ((action e).1, (action e).2.keeping kept)

theorem Follows.pure (answer : α) :
    Follows kept (Pure.pure answer) (Pure.pure answer) := fun _ => rfl

theorem Follows.throw (failure : Failure) :
    Follows kept (MonadExcept.throw failure : Run α) (MonadExcept.throw failure) := fun _ => rfl

theorem Follows.bind (h : Follows kept action action')
    (hnext : ∀ answer, Follows kept (next answer) (next' answer)) :
    Follows kept (action >>= next) (action' >>= next') := by
  intro e
  rw [bind_apply, bind_apply, h e]
  generalize action e = out
  obtain ⟨failure | answer, later⟩ := out
  · rfl
  · exact hnext answer later

theorem Follows.attempt (h : Follows kept action action') :
    Follows kept (attempt action) (attempt action') := by
  intro e
  show (Except.ok (action' (e.keeping kept)).1, (action' (e.keeping kept)).2) = _
  rw [h e]
  rfl

theorem Follows.ofExcept (result : Except Fault α) :
    Follows kept (ofExcept result) (ofExcept result) := by
  cases result <;> exact fun _ => rfl

theorem Follows.lineage : Follows kept lineage lineage := fun _ => rfl

theorem Follows.modifyLineage (f : Lineage → Lineage) :
    Follows kept (modifyLineage f) (modifyLineage f) := fun _ => rfl

theorem Follows.note (text : String) : Follows kept (note text) (note text) := fun _ => rfl

theorem Follows.mark (type : TypeDescriptor) (step : StaticStep) :
    Follows kept (mark type step) (mark type step) := by
  intro e
  rw [mark_apply, mark_apply]
  show (if e.lineage.isInitialized type = true then _ else _) = _
  split <;> rfl

/-- An event that is kept is reported either way. -/
theorem Follows.report {event : Event} (h : event.isKept kept = true) :
    Follows kept (report event) (report event) := by
  intro e
  have hlog : (e.log ++ [event]).filter (Event.isKept kept) =
      e.log.filter (Event.isKept kept) ++ [event] := by
    simp [h]
  exact congrArg (fun log => (Except.ok (), { e.keeping kept with log })) hlog.symm

/-- One that is not kept need not be reported. -/
theorem Follows.report_dropped {event : Event} (h : event.isKept kept = false) :
    Follows kept (Run.report event) (Pure.pure ()) := by
  intro e
  have hlog : (e.log ++ [event]).filter (Event.isKept kept) = e.log.filter (Event.isKept kept) := by
    simp [h]
  exact congrArg (fun log => (Except.ok (), { e.keeping kept with log })) hlog.symm

/-- A use of registers is reported where the flag says so. -/
theorem Follows.reportTraced {event : Event} (h : event.ofRegisters = true) :
    Follows kept (reportTraced event) (reportTraced event) := by
  have hkept := Event.isKept_of_ofRegisters h kept
  intro e
  rw [reportTraced_apply, reportTraced_apply]
  show (_, if (kept.registers && e.frame.registers.traced) = true then _ else _) = _
  cases hregisters : kept.registers with
  | true =>
    cases e.frame.registers.traced with
    | true => exact Follows.report (hkept.trans hregisters) e
    | false => rfl
  | false =>
    cases e.frame.registers.traced with
    | true => exact Follows.report_dropped (hkept.trans hregisters) e
    | false => rfl

theorem Follows.frame_bind {next next' : Frame → Run β}
    (hnext : ∀ frame, Follows kept (next frame) (next' (frame.keeping kept))) :
    Follows kept (Run.frame >>= next) (Run.frame >>= next') :=
  fun e => hnext e.frame e

theorem Follows.registers_bind {next next' : Registers → Run β}
    (hnext : ∀ registers, Follows kept (next registers) (next' (registers.keeping kept))) :
    Follows kept (Run.registers >>= next) (Run.registers >>= next') :=
  fun e => hnext e.frame.registers e

theorem Follows.setRegisters (registers : Registers) :
    Follows kept (setRegisters registers) (setRegisters (registers.keeping kept)) := fun _ => rfl

/-- What is computed may have flags itself. -/
theorem Follows.ofExcept_bind {result : Except Fault α} (strip : α → α)
    (hnext : ∀ answer, Follows kept (next answer) (next' (strip answer))) :
    Follows kept (Run.ofExcept result >>= next) (Run.ofExcept (result.map strip) >>= next') := by
  cases result with
  | error fault => exact fun _ => rfl
  | ok answer => exact fun e => hnext answer e

theorem Follows.readParameter (parameter : Nat) :
    Follows kept (readParameter parameter) (readParameter parameter) :=
  .registers_bind fun _ => .bind (.ofExcept _) fun _ => .bind (.reportTraced rfl) fun _ => .pure _

theorem Follows.assignReturn (value : Value) :
    Follows kept (assignReturn value) (assignReturn value) :=
  .bind (.reportTraced rfl) fun _ => .registers_bind fun _ => .setRegisters _

theorem Follows.assignInvokeResult (value : Value) :
    Follows kept (assignInvokeResult value) (assignInvokeResult value) :=
  .bind (.reportTraced rfl) fun _ => .registers_bind fun _ => .setRegisters _

theorem Follows.clearInvokeResult : Follows kept clearInvokeResult clearInvokeResult :=
  .registers_bind fun _ => .setRegisters _

theorem Follows.takeReturn : Follows kept takeReturn takeReturn :=
  .registers_bind fun _ => .bind (.setRegisters _) fun _ => .pure _

theorem Follows.takeInvokeResult : Follows kept takeInvokeResult takeInvokeResult :=
  .registers_bind fun _ => .bind (.setRegisters _) fun _ => .pure _

theorem Follows.join (callee : Frame) :
    Follows kept (join callee) (join (callee.keeping kept)) := by
  have hresult : (callee.keeping kept).registers.returnValue = callee.registers.returnValue := rfl
  unfold Run.join
  rw [hresult]
  refine .bind (.report rfl) fun _ => ?_
  cases callee.registers.returnValue with
  | some value => exact .assignInvokeResult value
  | none => exact .clearInvokeResult

end Run

theorem Registers.assign_keeping (kept : Tracing) (registers : Registers) (register : Nat)
    (value : Value) :
    (registers.keeping kept).assign register value =
      (registers.assign register value).map (Registers.keeping kept) := by
  unfold assign
  show (if register < registers.slots.length then _ else _) = _
  split <;> rfl

theorem Registers.assignParameter_keeping (kept : Tracing) (registers : Registers)
    (parameter : Nat) (value : Value) :
    (registers.keeping kept).assignParameter parameter value =
      (registers.assignParameter parameter value).map (Registers.keeping kept) := by
  show (registers.parameterStart parameter >>= fun start =>
    (registers.keeping kept).assign start value) = _
  unfold assignParameter
  cases registers.parameterStart parameter with
  | error fault => rfl
  | ok start => exact assign_keeping kept registers start value

/-- How deep calls may nest does not depend on what is traced, and callees inherit what is. -/
theorem Frame.call_keeping (frame : Frame) (kept : Tracing) (method : String)
    (arguments : Registers) :
    (frame.keeping kept).call method arguments =
      (frame.call method arguments).map (Frame.keeping kept) := by
  unfold Frame.call
  show (if frame.depth < frame.depthLimit then _ else _) = _
  split <;> rfl

namespace Run

variable {α β : Type} {kept : Tracing} {action action' : Run α} {next next' : α → Run β}

/-- The callee differs in its flags, but what is left of the execution does not. -/
theorem call_keeping (kept : Tracing) (method : String) (arguments : Registers) (e : Execution) :
    (Run.call method arguments (e.keeping kept)).2 =
      (Run.call method arguments e).2.keeping kept := by
  have hcall : (e.keeping kept).frame.call method arguments =
      (e.frame.call method arguments).map (Frame.keeping kept) :=
    e.frame.call_keeping kept method arguments
  rw [World.call_apply, World.call_apply, hcall]
  cases e.frame.call method arguments with
  | error fault => rfl
  | ok callee =>
    have hreport : Follows kept (Run.report (.spawned method callee.depth))
        (Run.report (.spawned method callee.depth)) := .report rfl
    exact congrArg Prod.snd (hreport e)

theorem Follows.call_bind {next next' : Frame → Run β} (method : String) (arguments : Registers)
    (hnext : ∀ callee, Follows kept (next callee) (next' (callee.keeping kept))) :
    Follows kept (Run.call method arguments >>= next) (Run.call method arguments >>= next') := by
  have hcall (next : Frame → Run β) : Run.call method arguments >>= next =
      Run.frame >>= fun frame => Run.ofExcept (frame.call method arguments) >>= fun callee =>
        Run.report (.spawned method callee.depth) >>= fun _ => next callee := by
    simp only [Run.call, bind_assoc, pure_bind]
  rw [hcall, hcall]
  refine .frame_bind fun frame => ?_
  rw [Frame.call_keeping]
  exact .ofExcept_bind _ fun callee => .bind (.report rfl) fun _ => hnext callee

theorem inFrame_bind_apply (callee : Frame) (action : Run α) (next : α × Frame → Run β)
    (e : Execution) :
    (inFrame callee action >>= next) e = match action { e with frame := callee } with
      | (.ok answer, inner) => next (answer, inner.frame) { inner with frame := e.frame }
      | (.error failure, inner) => (.error failure, { inner with frame := e.frame }) := by
  rw [bind_apply]
  unfold inFrame
  rcases action { e with frame := callee } with ⟨failure | answer, inner⟩ <;> rfl

/-- What is traced in another frame is left out there. -/
theorem Follows.inFrame_bind {next next' : α × Frame → Run β} (callee : Frame)
    (h : Follows kept action action')
    (hnext : ∀ answer left,
      Follows kept (next (answer, left)) (next' (answer, left.keeping kept))) :
    Follows kept (inFrame callee action >>= next)
      (inFrame (callee.keeping kept) action' >>= next') := by
  intro e
  have hrun : action' { e.keeping kept with frame := callee.keeping kept } = _ :=
    h { e with frame := callee }
  rw [inFrame_bind_apply, inFrame_bind_apply, hrun]
  generalize action { e with frame := callee } = out
  obtain ⟨failure | answer, inner⟩ := out
  · rfl
  · exact hnext answer inner.frame { inner with frame := e.frame }

/-- A script follows itself if the answers to its requests do. -/
theorem Follows.script {ρ : Type} {Answer : ρ → Type}
    {serve serve' : (request : ρ) → Run (Answer request)}
    (h : ∀ request, Follows kept (serve request) (serve' request)) (script : Script ρ Answer α) :
    Follows kept (script.run serve) (script.run serve') := by
  induction script with
  | done answer => exact .pure answer
  | fail failure => exact .throw failure
  | ask request next ih => exact .bind (.attempt (h request)) ih

end Run

/-! ## What runs on a machine that traces less -/

theorem compositional_follows (kept : Tracing) :
    Compositional (fun _ => True) fun action => Run.Follows kept action action where
  pure := .pure
  throw := .throw
  bind := .bind
  attempt := .attempt
  depth_bind h := .frame_bind fun _ => h _
  lineage := .lineage
  modifyLineage f _ := .modifyLineage f
  mark := .mark
  report _ h := .report (Event.isKept_of_level h kept)
  note := .note
  readParameter parameter _ := .readParameter parameter
  assignReturn value _ := .assignReturn value

namespace Machine

variable {kept : Tracing} {machine : Machine} {invoke invoke' : String → Run Outcome}

theorem follows_serveWith
    (hinvoke : ∀ signature, Follows kept (invoke signature) (invoke' signature))
    (request : MethodRequest) :
    Follows kept (machine.serveWith invoke request)
      ((machine.keeping kept).serveWith invoke' request) := by
  have h := compositional_follows kept
  cases request with
  | access request => exact h.serve machine.statics request
  | returnUnknown type => exact .assignReturn _
  | returnAs type value => exact h.returnAs type value
  | call signature arguments joins =>
    refine .call_bind _ _ fun callee => .inFrame_bind callee (hinvoke signature) ?_
    intro outcome left
    cases joins with
    | true => exact .bind (.join left) fun _ => .pure _
    | false => exact .pure _
  | invoke signature => exact hinvoke signature
  | returnInvokeResult =>
    refine .bind .takeInvokeResult fun result => ?_
    cases result with
    | none => exact .pure _
    | some value => exact .assignReturn value

theorem follows_runWith
    (hinvoke : ∀ signature, Follows kept (invoke signature) (invoke' signature)) (method : Method) :
    Follows kept (machine.runWith invoke method)
      ((machine.keeping kept).runWith invoke' method) := by
  have h := compositional_follows kept
  cases method with
  | fieldGet => exact h.fieldGet
  | fieldGetName => exact h.fieldGetName
  | fieldGetModifiers => exact h.fieldGetModifiers
  | scripted signature body => exact .script (follows_serveWith hinvoke) body

/-- A dispatch is reported only if both the machine and what is kept say so. -/
theorem follows_invokeWithin (kept : Tracing) (machine : Machine) (nesting : Nat)
    (signature : String) :
    Follows kept (machine.invokeWithin nesting signature)
      ((machine.keeping kept).invokeWithin nesting signature) := by
  induction nesting generalizing signature with
  | zero => exact .throw _
  | succ nesting ih =>
    have hmethods : (machine.keeping kept).methods = machine.methods := rfl
    unfold Machine.invokeWithin
    rw [hmethods]
    cases machine.methods.get? signature with
    | none => exact .pure _
    | some method =>
      have hrun : Follows kept
          (Run.attempt (machine.runWith (machine.invokeWithin nesting) method) >>=
            conclude signature)
          (Run.attempt ((machine.keeping kept).runWith
            ((machine.keeping kept).invokeWithin nesting) method) >>= conclude signature) :=
        .bind (.attempt (follows_runWith ih method)) fun _ =>
          (compositional_follows kept).conclude _ _
      have hdispatch : (machine.keeping kept).config.tracing.dispatch =
          (kept.dispatch && machine.config.tracing.dispatch) := rfl
      rw [hdispatch]
      cases hkept : kept.dispatch with
      | true =>
        cases machine.config.tracing.dispatch with
        | true => exact .frame_bind fun _ => .bind (.report hkept) fun _ => hrun
        | false => exact hrun
      | false =>
        cases machine.config.tracing.dispatch with
        | true =>
          intro e
          have hdropped : Follows kept (Run.report (.dispatching signature e.frame.depth))
              (pure ()) := .report_dropped hkept
          exact hdropped.bind (fun _ => hrun) e
        | false => exact hrun

theorem follows_invoke (kept : Tracing) (machine : Machine) (signature : String) :
    Follows kept (machine.invoke signature) ((machine.keeping kept).invoke signature) :=
  follows_invokeWithin kept machine maxNesting signature

theorem follows_execute (kept : Tracing) (machine : Machine) (signature : String) :
    Follows kept (machine.execute signature) ((machine.keeping kept).execute signature) := by
  have hmethods : (machine.keeping kept).methods = machine.methods := rfl
  unfold Machine.execute
  rw [hmethods]
  cases machine.methods.get? signature with
  | none => exact .pure _
  | some method =>
    exact .bind (follows_runWith (follows_invoke kept machine) method) fun _ => .pure _

/-- Whatever is done in a frame. -/
theorem follows_act (kept : Tracing) (machine : Machine) (action : Action) :
    Follows kept (machine.act action) ((machine.keeping kept).act (action.keeping kept)) := by
  have hserve : ∀ request, Follows kept (machine.statics.serve request)
      (machine.statics.serve request) := (compositional_follows kept).serve machine.statics
  cases action with
  | readParameter parameter => exact .bind (.readParameter _) fun _ => .pure _
  | assignParameter parameter value =>
    refine .registers_bind fun registers => ?_
    rw [Registers.assignParameter_keeping]
    exact .ofExcept_bind _ fun _ => .bind (.setRegisters _) fun _ => .pure _
  | read register => exact .registers_bind fun _ => .bind (.ofExcept _) fun _ => .pure _
  | assign register value =>
    refine .registers_bind fun registers => ?_
    rw [Registers.assign_keeping]
    exact .ofExcept_bind _ fun _ => .bind (.setRegisters _) fun _ => .pure _
  | readReturn => exact .registers_bind fun _ => .pure _
  | assignReturn value => exact .bind (.assignReturn _) fun _ => .pure _
  | takeReturn => exact .bind .takeReturn fun _ => .pure _
  | readInvokeResult => exact .registers_bind fun _ => .pure _
  | assignInvokeResult value => exact .bind (.assignInvokeResult _) fun _ => .pure _
  | clearInvokeResult => exact .bind .clearInvokeResult fun _ => .pure _
  | takeInvokeResult => exact .bind .takeInvokeResult fun _ => .pure _
  | setTraced traced => exact .registers_bind fun _ => .bind (.setRegisters _) fun _ => .pure _
  | replaceRegisters registers => exact .bind (.setRegisters _) fun _ => .pure _
  | readStatic field => exact .bind (hserve (.read field)) fun _ => .pure _
  | writeStatic field value => exact .bind (hserve (.write field value)) fun _ => .pure _
  | initializeOnce type => exact .bind (hserve (.initializeOnce type)) fun _ => .pure _
  | isInitialized type => exact .bind .lineage fun _ => .pure _
  | invoke signature => exact .bind (follows_invoke kept machine signature) fun _ => .pure _
  | call arguments signature =>
    exact .bind (.setRegisters _) fun _ =>
      .bind (follows_invoke kept machine signature) fun _ => .pure _
  | execute signature => exact .bind (follows_execute kept machine signature) fun _ => .pure _
  | pass => exact .pure _

end Machine

end Dalvik
