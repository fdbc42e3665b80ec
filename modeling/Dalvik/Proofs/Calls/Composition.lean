import Dalvik.Action
import Dalvik.Proofs.Reflection.ReturnSlot

/-!
# What is done in a frame is put together

Everything that can be done in a frame, emulated calls included, is put together from a few parts:
the accesses to static fields, the reads and writes of registers, and code in another frame. So a
property of runs holds of all of it as soon as it is `Pervasive`, and never has to be traced through
the methods again.
-/

namespace Dalvik

open Run

/-! ## The methods of the library -/

namespace Compositional

variable {P : {α : Type} → Run α → Prop} {machine : Machine}

theorem serve (h : Compositional (fun _ => True) P) (statics : StaticFields)
    (request : StaticRequest) : P (statics.serve request) :=
  StaticFields.serveWith_of h
    (StaticFields.initializeWithin_of h statics.initializersAsk_true _) request trivial

theorem returnAs (h : Compositional (fun _ => True) P) (type : TypeDescriptor) (value : Value) :
    P (Run.returnAs type value) :=
  h.bind (h.ofExcept _) fun _ => h.assignReturn _ trivial

/-- A method on fields makes its result unknown, and goes on if it knows its receiver. -/
theorem find (h : Compositional (fun _ => True) P) (result : TypeDescriptor)
    {find : ReflectedField → Run Unit} (hfind : ∀ handle, P (find handle)) :
    P (do
      Run.returnUnknown result
      if let some handle ← Machine.receiver then find handle) := by
  have hreceiver : P Machine.receiver := by
    refine h.bind (h.readParameter 0 trivial) fun value => ?_
    split
    · exact h.pure _
    · exact h.pure _
    · exact h.throw _
  refine h.bind (h.assignReturn _ trivial) fun _ => h.bind hreceiver fun handle => ?_
  cases handle with
  | none => exact h.pure ()
  | some handle => exact hfind handle

theorem readReflected (h : Compositional (fun _ => True) P) (field : DeclaredField) :
    P (machine.readReflected field) := by
  unfold Machine.readReflected
  split
  · exact Machine.readStatic_of h machine.statics.initializersAsk_true field
  · exact h.bind (h.ofExcept _) fun _ => h.bind (h.readParameter 1 trivial) fun _ => h.ofExcept _

theorem fieldGet (h : Compositional (fun _ => True) P) : P machine.fieldGet :=
  h.find _ fun _ => h.bind (h.ofExcept _) fun field => h.bind (h.readReflected field) fun _ =>
    h.returnAs _ _

theorem fieldGetName (h : Compositional (fun _ => True) P) : P Machine.fieldGetName :=
  h.find _ fun _ => h.returnAs _ _

theorem fieldGetModifiers (h : Compositional (fun _ => True) P) : P machine.fieldGetModifiers :=
  h.find _ fun _ => h.bind (h.ofExcept _) fun _ => h.returnAs _ _

theorem conclude (h : Compositional (fun _ => True) P) (signature : String)
    (result : Except Failure Unit) : P (Machine.conclude signature result) := by
  unfold Machine.conclude
  split
  · exact h.pure _
  · split
    · exact h.bind (h.report _ (by nofun)) fun _ => h.pure _
    · exact h.bind (h.report _ (by nofun)) fun _ => h.throw _

end Compositional

/-! ## All that is done in a frame -/

/-- A property of runs that holds of whatever is put together from runs with that property, and of
everything that touches the registers of the active frame. -/
structure Pervasive (P : {α : Type} → Run α → Prop) : Prop extends
    Compositional (fun _ => True) P where
  trace (event : Event) : P (Run.report event)
  frame : P Run.frame
  registers : P Run.registers
  setRegisters (registers : Registers) : P (Run.setRegisters registers)
  inFrame {α : Type} {action : Run α} (callee : Frame) : P action → P (Run.inFrame callee action)

namespace Pervasive

variable {P : {α : Type} → Run α → Prop} {α : Type} {machine : Machine}

/-! ## Registers and frames -/

theorem reportTraced (h : Pervasive P) (event : Event) : P (Run.reportTraced event) := by
  refine h.bind h.registers fun registers => ?_
  split
  · exact h.trace event
  · exact h.pure ()

theorem assignInvokeResult (h : Pervasive P) (value : Value) : P (Run.assignInvokeResult value) :=
  h.bind (h.reportTraced _) fun _ => h.bind h.registers fun _ => h.setRegisters _

theorem clearInvokeResult (h : Pervasive P) : P Run.clearInvokeResult :=
  h.bind h.registers fun _ => h.setRegisters _

theorem takeReturn (h : Pervasive P) : P Run.takeReturn :=
  h.bind h.registers fun _ => h.bind (h.setRegisters _) fun _ => h.pure _

theorem takeInvokeResult (h : Pervasive P) : P Run.takeInvokeResult :=
  h.bind h.registers fun _ => h.bind (h.setRegisters _) fun _ => h.pure _

theorem call (h : Pervasive P) (method : String) (arguments : Registers) :
    P (Run.call method arguments) :=
  h.bind h.frame fun _ => h.bind (h.ofExcept _) fun _ => h.bind (h.trace _) fun _ => h.pure _

theorem join (h : Pervasive P) (callee : Frame) : P (Run.join callee) := by
  refine h.bind (h.trace _) fun _ => ?_
  cases callee.registers.returnValue with
  | some value => exact h.assignInvokeResult value
  | none => exact h.clearInvokeResult

theorem script (h : Pervasive P) {ρ : Type} {Answer : ρ → Type}
    {serve : (request : ρ) → Run (Answer request)} (hserve : ∀ request, P (serve request))
    (script : Script ρ Answer α) : P (script.run serve) :=
  h.toCompositional.script (fun request _ => hserve request) script.asks_true

/-! ## Emulated calls -/

theorem serveWith (h : Pervasive P) {invoke : String → Run Outcome}
    (hinvoke : ∀ signature, P (invoke signature)) (request : MethodRequest) :
    P (machine.serveWith invoke request) := by
  cases request with
  | access request => exact h.toCompositional.serve machine.statics request
  | returnUnknown type => exact h.assignReturn _ trivial
  | returnAs type value => exact h.toCompositional.returnAs type value
  | call signature arguments joins =>
    refine h.bind (h.call _ _) fun callee => h.bind (h.inFrame callee (hinvoke signature)) ?_
    rintro ⟨outcome, left⟩
    cases joins with
    | true => exact h.bind (h.join left) fun _ => h.pure _
    | false => exact h.pure _
  | invoke signature => exact hinvoke signature
  | returnInvokeResult =>
    refine h.bind h.takeInvokeResult fun result => ?_
    cases result with
    | none => exact h.pure _
    | some value => exact h.assignReturn value trivial

theorem runWith (h : Pervasive P) {invoke : String → Run Outcome}
    (hinvoke : ∀ signature, P (invoke signature)) (method : Method) :
    P (machine.runWith invoke method) := by
  cases method with
  | fieldGet => exact h.toCompositional.fieldGet
  | fieldGetName => exact h.toCompositional.fieldGetName
  | fieldGetModifiers => exact h.toCompositional.fieldGetModifiers
  | scripted signature body => exact h.script (h.serveWith hinvoke) body

theorem invokeWithin (h : Pervasive P) (nesting : Nat) (signature : String) :
    P (machine.invokeWithin nesting signature) := by
  induction nesting generalizing signature with
  | zero => exact h.throw _
  | succ nesting ih =>
    unfold Machine.invokeWithin
    split
    · exact h.pure _
    · rename_i method _
      have hrun : P (do
          Machine.conclude signature
            (← Run.attempt (machine.runWith (machine.invokeWithin nesting) method))) :=
        h.bind (h.attempt (h.runWith ih method)) fun _ => h.toCompositional.conclude _ _
      cases machine.config.tracing.dispatch with
      | true => exact h.bind h.frame fun _ => h.bind (h.trace _) fun _ => hrun
      | false => exact hrun

theorem execute (h : Pervasive P) (signature : String) : P (machine.execute signature) := by
  unfold Machine.execute
  split
  · exact h.pure _
  · exact h.bind (h.runWith (h.invokeWithin _) _) fun _ => h.pure _

/-! ## Actions -/

theorem act (h : Pervasive P) (action : Action) : P (machine.act action) := by
  have hinvoke : ∀ signature, P (machine.invoke signature) := h.invokeWithin Machine.maxNesting
  have hserve : ∀ request, P (machine.statics.serve request) :=
    h.toCompositional.serve machine.statics
  cases action with
  | readParameter parameter => exact h.bind (h.readParameter _ trivial) fun _ => h.pure _
  | assignParameter parameter value =>
    refine h.bind h.registers fun _ => h.bind (h.ofExcept _) fun _ => ?_
    exact h.bind (h.setRegisters _) fun _ => h.pure _
  | read register => exact h.bind h.registers fun _ => h.bind (h.ofExcept _) fun _ => h.pure _
  | assign register value =>
    refine h.bind h.registers fun _ => h.bind (h.ofExcept _) fun _ => ?_
    exact h.bind (h.setRegisters _) fun _ => h.pure _
  | readReturn => exact h.bind h.registers fun _ => h.pure _
  | assignReturn value => exact h.bind (h.assignReturn _ trivial) fun _ => h.pure _
  | takeReturn => exact h.bind h.takeReturn fun _ => h.pure _
  | readInvokeResult => exact h.bind h.registers fun _ => h.pure _
  | assignInvokeResult value => exact h.bind (h.assignInvokeResult _) fun _ => h.pure _
  | clearInvokeResult => exact h.bind h.clearInvokeResult fun _ => h.pure _
  | takeInvokeResult => exact h.bind h.takeInvokeResult fun _ => h.pure _
  | setTraced traced =>
    exact h.bind h.registers fun _ => h.bind (h.setRegisters _) fun _ => h.pure _
  | replaceRegisters registers => exact h.bind (h.setRegisters _) fun _ => h.pure _
  | readStatic field => exact h.bind (hserve (.read field)) fun _ => h.pure _
  | writeStatic field value => exact h.bind (hserve (.write field value)) fun _ => h.pure _
  | initializeOnce type => exact h.bind (hserve (.initializeOnce type)) fun _ => h.pure _
  | isInitialized type => exact h.bind h.lineage fun _ => h.pure _
  | invoke signature => exact h.bind (hinvoke signature) fun _ => h.pure _
  | call arguments signature =>
    exact h.bind (h.setRegisters _) fun _ => h.bind (hinvoke signature) fun _ => h.pure _
  | execute signature => exact h.bind (h.execute signature) fun _ => h.pure _
  | pass => exact h.pure _

end Pervasive

end Dalvik
