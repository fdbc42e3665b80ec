import Dalvik.Text.Quoted

/-!
# Configuration

How a machine runs: the limit on nested calls, whether a static field's class is initialized
before or after access to the field is checked, and what is traced.
-/

namespace Dalvik

/-- Which comes first when a static field is read through reflection. -/
inductive InitOrder where
  | initializeFirst
  | checkAccessFirst
deriving DecidableEq, Inhabited

/-- What is traced: uses of parameters and results, and the dispatch of emulated methods. -/
structure Tracing where
  registers : Bool
  dispatch : Bool
deriving DecidableEq, Inhabited

namespace Tracing

/-- Dispatch is traced, registers are not. -/
def standard : Tracing := ⟨false, true⟩

def full : Tracing := ⟨true, true⟩

def off : Tracing := ⟨false, false⟩

def isEnabled (tracing : Tracing) : Bool := tracing.registers || tracing.dispatch

end Tracing

structure Config where
  maxCallDepth : Nat
  initOrder : InitOrder
  tracing : Tracing
deriving DecidableEq, Inhabited

namespace Config

/-- Fifty nested calls, initialization first, standard tracing. -/
def standard : Config := ⟨50, .initializeFirst, .standard⟩

def strict : Config := { standard with initOrder := .checkAccessFirst }

def minimal : Config := { standard with maxCallDepth := 8, tracing := .off }

end Config

def InitOrder.text : InitOrder → String
  | initializeFirst => "InitializeFirst"
  | checkAccessFirst => "AccessCheckFirst"

def Tracing.summary (tracing : Tracing) : String :=
  "TracingConfig \x7b trace_registers: " ++ Text.word tracing.registers ++ ", trace_dispatch: " ++
    Text.word tracing.dispatch ++ " \x7d"

def Config.summary (config : Config) : String :=
  "VmConfig \x7b max_call_depth: " ++ toString config.maxCallDepth ++ ", init_order: " ++
    config.initOrder.text ++ ", tracing: " ++ config.tracing.summary ++ " \x7d"

end Dalvik
