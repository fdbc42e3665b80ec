import Dalvik.FieldReflection

/-!
# Dispatch

A call is emulated by the method with its signature. A fault that stands for an exception is how the
emulated call ends; every other failure is a failure of the call itself. Methods may invoke others;
how deep invocations nest is limited here, so that every call ends.
-/

namespace Dalvik.Machine

/-- Answers a request of an emulated method; other methods are invoked by `invoke`. -/
def serveWith (machine : Machine) (invoke : String → Run Outcome) :
    (request : MethodRequest) → Run request.Answer
  | .access request => machine.statics.serve request
  | .returnUnknown type => Run.returnUnknown type
  | .returnAs type value => Run.returnAs type value
  | .call signature arguments joins => do
    let callee ← Run.call signature arguments
    let (outcome, callee) ← Run.inFrame callee (invoke signature)
    if joins then Run.join callee
    return outcome
  | .invoke signature => invoke signature
  | .returnInvokeResult => do
    if let some value ← Run.takeInvokeResult then Run.assignReturn value

/-- Runs a method in the active frame; other methods are invoked by `invoke`. -/
def runWith (machine : Machine) (invoke : String → Run Outcome) : Method → Run Unit
  | .fieldGet => machine.fieldGet
  | .fieldGetName => fieldGetName
  | .fieldGetModifiers => machine.fieldGetModifiers
  | .scripted _ body => body.run (machine.serveWith invoke)

/-- The outcome of a call whose method ended like this. -/
def conclude (signature : String) : Except Failure Unit → Run Outcome
  | .ok () => pure .completed
  | .error failure =>
    match failure.fault?.bind fun fault => fault.exceptionClass?.map fun type => (type, fault) with
    | some (exception, condition) => do
      Run.report (.threw signature exception condition)
      return .threw exception condition
    | none => do
      Run.report (.failed signature failure)
      throw failure

/-- Emulates a call in the active frame. At most `nesting` calls are in progress at once; that one
more fails is artificial, see `maxNesting`. -/
def invokeWithin (machine : Machine) : Nat → String → Run Outcome
  | 0, signature => throw (.other ("calls nest too deeply: " ++ signature))
  | nesting + 1, signature =>
    match machine.methods.get? signature with
    | none => pure .notEmulated
    | some method => do
      if machine.config.tracing.dispatch then
        Run.report (.dispatching signature (← Run.frame).depth)
      conclude signature (← Run.attempt (machine.runWith (machine.invokeWithin nesting) method))

/-- How many calls may be in progress at once. The limit and the failure at it are artificial: they
make every call end. A machine that runs limits only the frames that are spawned, by its
configuration, and methods that invoke each other in one frame would go on without end. -/
def maxNesting : Nat := 100000

def invoke (machine : Machine) (signature : String) : Run Outcome :=
  machine.invokeWithin maxNesting signature

/-- Runs the method with this signature in the active frame, without dispatch. Answers whether there
is one. -/
def execute (machine : Machine) (signature : String) : Run Bool :=
  match machine.methods.get? signature with
  | none => pure false
  | some method => do
    machine.runWith machine.invoke method
    return true

end Dalvik.Machine
