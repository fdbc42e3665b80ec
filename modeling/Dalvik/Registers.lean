import Dalvik.Value.Basic

/-!
# Registers

The registers of one method invocation. Parameters occupy the registers with the highest numbers, in
order; one of a wide type takes two registers and is addressed by the first. Two more
slots have no number: the result of the invocation itself, and the result of the last call that it
made.
-/

namespace Dalvik

/-- The registers of a method invocation. `parameters` holds the register where each parameter
starts; `traced` says that reads of parameters and writes of results are reported. -/
structure Registers where
  slots : List (Option Value)
  parameters : List Nat
  returnValue : Option Value
  invokeResult : Option Value
  traced : Bool
deriving Inhabited

namespace Registers

def empty : Registers := ⟨[], [], none, none, false⟩

/-- The total width of some parameters. -/
def width : List TypeDescriptor → Nat
  | [] => 0
  | type :: rest => type.width + width rest

/-- The registers where parameters of these types start, if the first starts at `next`. -/
def starts (next : Nat) : List TypeDescriptor → List Nat
  | [] => []
  | type :: rest => next :: starts (next + type.width) rest

/-- Empty registers, with a window for parameters of these types at the top. -/
def withTypes (count : Nat) (types : List TypeDescriptor) : Except Fault Registers :=
  if width types ≤ count then
    .ok ⟨List.replicate count none, starts (count - width types) types, none, none, false⟩
  else .error (.registerOutOfRange (width types - 1) count)

/-- The slots that one argument fills: the second one of a wide value stays empty. -/
def argumentSlots (value : Value) : List (Option Value) :=
  if value.type.isWide then [some value, none] else [some value]

/-- Adds an argument behind the registers that are there. -/
def withArgument (registers : Registers) (value : Value) : Registers :=
  { registers with
    slots := registers.slots ++ argumentSlots value
    parameters := registers.parameters ++ [registers.slots.length] }

/-- Registers that hold these arguments and nothing else. -/
def withArguments (values : List Value) : Registers :=
  values.foldl withArgument empty

def parameterStart (registers : Registers) (parameter : Nat) : Except Fault Nat :=
  match registers.parameters[parameter]? with
  | some register => .ok register
  | none => .error (.parameterOutOfRange parameter registers.parameters.length)

/-- The value of a register that was assigned. -/
def read (registers : Registers) (register : Nat) : Except Fault Value :=
  match registers.slots[register]? with
  | some (some value) => .ok value
  | some none => .error (.uninitializedRegister register)
  | none => .error (.registerOutOfRange register registers.slots.length)

def assign (registers : Registers) (register : Nat) (value : Value) : Except Fault Registers :=
  if register < registers.slots.length then
    .ok { registers with slots := registers.slots.set register (some value) }
  else .error (.registerOutOfRange register registers.slots.length)

/-- The value of a parameter that was assigned, with the register where it starts. -/
def readParameter (registers : Registers) (parameter : Nat) : Except Fault (Nat × Value) := do
  let register ← registers.parameterStart parameter
  let value ← registers.read register
  return (register, value)

def assignParameter (registers : Registers) (parameter : Nat) (value : Value) :
    Except Fault Registers := do
  registers.assign (← registers.parameterStart parameter) value

def setReturn (registers : Registers) (value : Option Value) : Registers :=
  { registers with returnValue := value }

def setInvokeResult (registers : Registers) (value : Option Value) : Registers :=
  { registers with invokeResult := value }

def setTraced (registers : Registers) (traced : Bool) : Registers :=
  { registers with traced }

end Registers

end Dalvik
