import Dalvik.Event
import Dalvik.Frame
import Dalvik.Lineage
import Dalvik.Script

/-!
# Executions

What code sees and changes while a frame is active: the frame, the lineage that it belongs to, and
the record of what was reported. A run keeps all changes that it made before it failed.
-/

namespace Dalvik

/-- The state of the active frame. `log` holds the reported events and `notes` the remarks of
scripts, both in order. -/
structure Execution where
  frame : Frame
  lineage : Lineage
  log : List Event
  notes : List String
deriving Inhabited

/-- The execution of a frame of which nothing was reported. -/
def Execution.ofFrame (frame : Frame) (lineage : Lineage) : Execution :=
  ⟨frame, lineage, [], []⟩

/-- Code that runs in a frame. -/
abbrev Run (α : Type) := ExceptT Failure (StateM Execution) α

namespace Run

variable {α : Type}

/-- Code whose failure is its result. -/
def attempt (action : Run α) : Run (Except Failure α) :=
  fun execution =>
    let (result, execution) := action execution
    (.ok result, execution)

/-- Ends code with this result. -/
def conclude : Except Failure α → Run α
  | .ok result => pure result
  | .error failure => throw failure

/-- The result of a computation that does not touch the frame. -/
def ofExcept : Except Fault α → Run α
  | .ok result => pure result
  | .error fault => throw (.fault fault)

def report (event : Event) : Run Unit :=
  modify fun execution => { execution with log := execution.log ++ [event] }

def note (text : String) : Run Unit :=
  modify fun execution => { execution with notes := execution.notes ++ [text] }

def frame : Run Frame :=
  return (← get).frame

def registers : Run Registers :=
  return (← get).frame.registers

def setRegisters (registers : Registers) : Run Unit :=
  modify fun execution => { execution with frame := { execution.frame with registers } }

def lineage : Run Lineage :=
  return (← get).lineage

def modifyLineage (f : Lineage → Lineage) : Run Unit :=
  modify fun execution => { execution with lineage := f execution.lineage }

def record (step : StaticStep) : Run Unit :=
  modifyLineage (·.record step)

/-- Reports an event if the registers of the active frame are traced. -/
def reportTraced (event : Event) : Run Unit := do
  if (← registers).traced then report event

def readParameter (parameter : Nat) : Run Value := do
  let (register, value) ← ofExcept ((← registers).readParameter parameter)
  reportTraced (.parameterRead parameter register value)
  return value

def assignReturn (value : Value) : Run Unit := do
  reportTraced (.returnAssigned value)
  setRegisters ((← registers).setReturn (some value))

def assignInvokeResult (value : Value) : Run Unit := do
  reportTraced (.invokeResultAssigned value)
  setRegisters ((← registers).setInvokeResult (some value))

def clearInvokeResult : Run Unit := do
  setRegisters ((← registers).setInvokeResult none)

/-- Takes the result of the active frame out of its slot. -/
def takeReturn : Run (Option Value) := do
  let registers ← registers
  setRegisters (registers.setReturn none)
  return registers.returnValue

/-- Takes the result of the last call out of its slot. -/
def takeInvokeResult : Run (Option Value) := do
  let registers ← registers
  setRegisters (registers.setInvokeResult none)
  return registers.invokeResult

/-- Marks a class as one whose initialization has begun, which is what `step` tells; `false` if it
is marked already. -/
def mark (type : TypeDescriptor) (step : StaticStep) : Run Bool := do
  if (← lineage).isInitialized type then
    return false
  else
    modifyLineage fun lineage => (lineage.mark type).record step
    return true

/-- The frame of a call from the active frame. -/
def call (method : String) (arguments : Registers) : Run Frame := do
  let callee ← ofExcept ((← frame).call method arguments)
  report (.spawned method callee.depth)
  return callee

/-- Runs code in another frame of the lineage, which is left as the code leaves it. -/
def inFrame (callee : Frame) (action : Run α) : Run (α × Frame) :=
  fun execution =>
    let (result, inner) := action { execution with frame := callee }
    (result.map fun answer => (answer, inner.frame), { inner with frame := execution.frame })

/-- Ends another frame: its result becomes the result of the last call of the active frame. -/
def join (callee : Frame) : Run Unit := do
  report (.joined callee.callPath.getLast? callee.depth)
  match callee.registers.returnValue with
  | some value => assignInvokeResult value
  | none => clearInvokeResult

/-- Makes the result of the active frame an unknown value of its type, before it is computed. -/
def returnUnknown (type : TypeDescriptor) : Run Unit :=
  assignReturn (.unknown type)

/-- The value in the form in which a method of result type `type` returns it: as it is if it has
that type, boxed if the method returns any object. -/
def returnForm (type : TypeDescriptor) (value : Value) : Except Fault Value :=
  if value.type = type then .ok value
  else if type.isObject then .ok value.boxed
  else .error (.typeMismatch type ((value.payload?.map Payload.kind).getD "unknown"))

/-- Makes a value the result of the active frame, which returns values of this type. -/
def returnAs (type : TypeDescriptor) (value : Value) : Run Unit := do
  assignReturn (← ofExcept (returnForm type value))

end Run

/-- Runs a script: each request is answered by `serve`. -/
def Script.run {ρ : Type} {Answer : ρ → Type} {α : Type}
    (serve : (request : ρ) → Run (Answer request)) : Script ρ Answer α → Run α
  | .done result => pure result
  | .fail failure => throw failure
  | .ask request next => do
    let answer ← Run.attempt (serve request)
    (next answer).run serve

end Dalvik
