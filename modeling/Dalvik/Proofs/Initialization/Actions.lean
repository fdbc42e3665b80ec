import Dalvik.Action
import Dalvik.Proofs.Initialization.Accesses

/-!
# Actions take steps

Whatever is done in a frame advances its lineage, and leaves no initialization under way. An
emulated call comes down to accesses to static fields and to marks on classes that are not local.
-/

namespace Dalvik

open Run StaticFields

namespace Machine

variable {machine : Machine} {lineage : Lineage}

/-! ## Emulated calls -/

theorem keeps_initializeOwner (hl : machine.statics.Reachable lineage) (hidle : Idle lineage)
    (owner : TypeDescriptor) :
    Keeps (Advances machine.statics [] lineage) (machine.initializeOwner owner) := by
  unfold initializeOwner
  cases hlocal : machine.program.isLocal owner with
  | true => exact .bind (keeps_serve hl hidle (.initializeOnce owner)) fun _ => .pure _
  | false =>
    refine .bind ?_ fun marked => ?_
    · intro e he
      rw [mark_apply]
      cases hnew : e.lineage.isInitialized owner with
      | true => exact he
      | false => exact he.trans (.quiet (.foreign hlocal hnew (he.idle hidle)) (by simp; rfl) rfl)
    · exact .ite (.bind .frame fun _ => .report _) (.pure _)

theorem keeps_openStatic (hl : machine.statics.Reachable lineage) (hidle : Idle lineage)
    (field : DeclaredField) :
    Keeps (Advances machine.statics [] lineage) (machine.openStatic field) := by
  unfold openStatic
  split
  · exact .bind (keeps_initializeOwner hl hidle _) fun _ => .ofExcept _
  · exact .bind (.ofExcept _) fun _ => keeps_initializeOwner hl hidle _

theorem keeps_readStatic (hl : machine.statics.Reachable lineage) (hidle : Idle lineage)
    (field : DeclaredField) :
    Keeps (Advances machine.statics [] lineage) (machine.readStatic field) := by
  refine .bind (keeps_openStatic hl hidle field) fun _ => ?_
  exact .ite (keeps_serve hl hidle (.read field.id)) (.pure _)

theorem keeps_receiver {I : Lineage → Prop} : Keeps I receiver := by
  refine .bind (.readParameter 0) fun value => ?_
  split
  · exact .pure _
  · exact .pure _
  · exact .throw _

theorem keeps_fieldGet (hl : machine.statics.Reachable lineage) (hidle : Idle lineage) :
    Keeps (Advances machine.statics [] lineage) machine.fieldGet := by
  refine .bind (.returnUnknown _) fun _ => .bind keeps_receiver fun handle => ?_
  cases handle with
  | none => exact .pure _
  | some handle =>
    refine .bind (.ofExcept _) fun field => .bind ?_ fun _ => .returnAs _ _
    refine .ite (keeps_readStatic hl hidle field) ?_
    exact .bind (.ofExcept _) fun _ => .bind (.readParameter 1) fun _ => .ofExcept _

theorem keeps_fieldGetName {I : Lineage → Prop} : Keeps I fieldGetName := by
  refine .bind (.returnUnknown _) fun _ => .bind keeps_receiver fun handle => ?_
  cases handle with
  | none => exact .pure _
  | some handle => exact .returnAs _ _

theorem keeps_fieldGetModifiers {I : Lineage → Prop} : Keeps I machine.fieldGetModifiers := by
  refine .bind (.returnUnknown _) fun _ => .bind keeps_receiver fun handle => ?_
  cases handle with
  | none => exact .pure _
  | some handle => exact .bind (.ofExcept _) fun _ => .returnAs _ _

theorem keeps_runWith (hl : machine.statics.Reachable lineage) (hidle : Idle lineage)
    {invoke : String → Run Outcome}
    (hinvoke : ∀ signature, Keeps (Advances machine.statics [] lineage) (invoke signature))
    (method : Method) :
    Keeps (Advances machine.statics [] lineage) (machine.runWith invoke method) := by
  cases method with
  | fieldGet => exact keeps_fieldGet hl hidle
  | fieldGetName => exact keeps_fieldGetName
  | fieldGetModifiers => exact keeps_fieldGetModifiers
  | scripted signature body =>
    refine .script (fun request => ?_) body
    cases request with
    | access request => exact keeps_serve hl hidle request
    | returnUnknown type => exact .returnUnknown type
    | returnAs type value => exact .returnAs type value
    | call signature arguments joins =>
      refine .bind (.call _ _) fun callee => .bind (.inFrame _ (hinvoke signature)) fun answer => ?_
      exact .ite (.bind (.join _) fun _ => .pure _) (.pure _)
    | invoke signature => exact hinvoke signature
    | returnInvokeResult =>
      refine .bind .takeInvokeResult fun result => ?_
      cases result with
      | none => exact .pure _
      | some value => exact .assignReturn value

theorem keeps_conclude {I : Lineage → Prop} (signature : String) (result : Except Failure Unit) :
    Keeps I (conclude signature result) := by
  unfold conclude
  split
  · exact .pure _
  · split
    · exact .bind (.report _) fun _ => .pure _
    · exact .bind (.report _) fun _ => .throw _

theorem keeps_invokeWithin (hl : machine.statics.Reachable lineage) (hidle : Idle lineage)
    (nesting : Nat) (signature : String) :
    Keeps (Advances machine.statics [] lineage) (machine.invokeWithin nesting signature) := by
  induction nesting generalizing signature with
  | zero => exact .throw _
  | succ nesting ih =>
    unfold invokeWithin
    split
    · exact .pure _
    · rename_i method _
      have hrun : Keeps (Advances machine.statics [] lineage) (do
          conclude signature (← attempt (machine.runWith (machine.invokeWithin nesting) method))) :=
        .bind (.attempt (keeps_runWith hl hidle ih method)) fun _ => keeps_conclude _ _
      exact .ite (.bind .frame fun _ => .bind (.report _) fun _ => hrun) hrun

/-- Nothing that is done in a frame leaves an initialization under way. -/
theorem keeps_act (hl : machine.statics.Reachable lineage) (hidle : Idle lineage)
    (action : Action) : Keeps (Advances machine.statics [] lineage) (machine.act action) := by
  have hinvoke := keeps_invokeWithin hl hidle maxNesting
  cases action with
  | readParameter parameter => exact .bind (.readParameter _) fun _ => .pure _
  | assignParameter parameter value =>
    refine .bind .registers fun _ => .bind (.ofExcept _) fun _ => ?_
    exact .bind (.setRegisters _) fun _ => .pure _
  | read register => exact .bind .registers fun _ => .bind (.ofExcept _) fun _ => .pure _
  | assign register value =>
    refine .bind .registers fun _ => .bind (.ofExcept _) fun _ => ?_
    exact .bind (.setRegisters _) fun _ => .pure _
  | readReturn => exact .bind .registers fun _ => .pure _
  | assignReturn value => exact .bind (.assignReturn _) fun _ => .pure _
  | takeReturn => exact .bind .takeReturn fun _ => .pure _
  | readInvokeResult => exact .bind .registers fun _ => .pure _
  | assignInvokeResult value => exact .bind (.assignInvokeResult _) fun _ => .pure _
  | clearInvokeResult => exact .bind .clearInvokeResult fun _ => .pure _
  | takeInvokeResult => exact .bind .takeInvokeResult fun _ => .pure _
  | setTraced traced => exact .bind .registers fun _ => .bind (.setRegisters _) fun _ => .pure _
  | replaceRegisters registers => exact .bind (.setRegisters _) fun _ => .pure _
  | readStatic field => exact .bind (keeps_serve hl hidle (.read field)) fun _ => .pure _
  | writeStatic field value =>
    exact .bind (keeps_serve hl hidle (.write field value)) fun _ => .pure _
  | initializeOnce type =>
    exact .bind (keeps_serve hl hidle (.initializeOnce type)) fun _ => .pure _
  | isInitialized type => exact .bind .lineage fun _ => .pure _
  | invoke signature => exact .bind (hinvoke signature) fun _ => .pure _
  | call arguments signature =>
    exact .bind (.setRegisters _) fun _ => .bind (hinvoke signature) fun _ => .pure _
  | execute signature =>
    refine .bind ?_ fun _ => .pure _
    unfold execute
    split
    · exact .pure _
    · exact .bind (keeps_runWith hl hidle hinvoke _) fun _ => .pure _
  | pass => exact .pure _

end Machine

end Dalvik
