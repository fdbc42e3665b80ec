import Dalvik.Dispatch

/-!
# Actions

What can be done in one frame: reads and writes of its registers and slots, access to static fields,
and calls. An action is data, so that a run is a list of actions.
-/

namespace Dalvik

/-- Something to do in a frame. -/
inductive Action where
  | readParameter (parameter : Nat)
  | assignParameter (parameter : Nat) (value : Value)
  | read (register : Nat)
  | assign (register : Nat) (value : Value)
  | readReturn
  | assignReturn (value : Value)
  | takeReturn
  | readInvokeResult
  | assignInvokeResult (value : Value)
  | clearInvokeResult
  | takeInvokeResult
  | setTraced (traced : Bool)
  | replaceRegisters (registers : Registers)
  | readStatic (field : FieldId)
  | writeStatic (field : FieldId) (value : Value)
  | initializeOnce (type : TypeDescriptor)
  | isInitialized (type : TypeDescriptor)
  | invoke (signature : String)
  | call (arguments : Registers) (signature : String)
  | execute (signature : String)
  | pass

/-- What an action answers. -/
inductive Reply where
  | none
  | value (value : Option Value)
  | truth (holds : Bool)
  | outcome (outcome : Outcome)
  | executed (found : Bool)

instance : Inhabited Reply := ⟨.none⟩

/-- Does an action in the active frame. -/
def Machine.act (machine : Machine) : Action → Run Reply
  | .readParameter parameter => return .value (← Run.readParameter parameter)
  | .assignParameter parameter value => do
    Run.setRegisters (← Run.ofExcept ((← Run.registers).assignParameter parameter value))
    return .none
  | .read register => return .value (← Run.ofExcept ((← Run.registers).read register))
  | .assign register value => do
    Run.setRegisters (← Run.ofExcept ((← Run.registers).assign register value))
    return .none
  | .readReturn => return .value (← Run.registers).returnValue
  | .assignReturn value => do
    Run.assignReturn value
    return .none
  | .takeReturn => return .value (← Run.takeReturn)
  | .readInvokeResult => return .value (← Run.registers).invokeResult
  | .assignInvokeResult value => do
    Run.assignInvokeResult value
    return .none
  | .clearInvokeResult => do
    Run.clearInvokeResult
    return .none
  | .takeInvokeResult => return .value (← Run.takeInvokeResult)
  | .setTraced traced => do
    Run.setRegisters ((← Run.registers).setTraced traced)
    return .none
  | .replaceRegisters registers => do
    Run.setRegisters registers
    return .none
  | .readStatic field => return .value (← machine.statics.read field)
  | .writeStatic field value => do
    machine.statics.write field value
    return .none
  | .initializeOnce type => return .truth (← machine.statics.initializeOnce type)
  | .isInitialized type => return .truth ((← Run.lineage).isInitialized type)
  | .invoke signature => return .outcome (← machine.invoke signature)
  | .call arguments signature => do
    Run.setRegisters arguments
    return .outcome (← machine.invoke signature)
  | .execute signature => return .executed (← machine.execute signature)
  | .pass => return .none

end Dalvik
