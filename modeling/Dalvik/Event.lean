import Dalvik.Value.Text

/-!
# Events

What a run reports about itself, apart from its results. Each kind of event has a level: warnings
are failures of class initializers, traces are uses of registers and dispatches of emulated
methods, and everything else is for debugging.
-/

namespace Dalvik

inductive Level where
  | warning
  | debug
  | trace
deriving DecidableEq, Inhabited

namespace Level

/-- Warnings come first, traces last. -/
def rank : Level → Nat
  | warning => 0
  | debug => 1
  | trace => 2

def text : Level → String
  | warning => "WARN"
  | debug => "DEBUG"
  | trace => "TRACE"

end Level

inductive Event where
  | loaded (classes : Nat)
  | initializing (type : TypeDescriptor) (depth : Nat)
  | initializingForeign (type : TypeDescriptor) (depth : Nat)
  | initializerFailed (type : TypeDescriptor) (failure : Failure)
  | spawned (method : String) (depth : Nat)
  | joined (method : Option String) (depth : Nat)
  | forked (depth : Nat) (initialized : Nat)
  | exploring (paths : Nat)
  | dispatching (signature : String) (depth : Nat)
  | threw (signature : String) (exception : ExceptionClass) (condition : Fault)
  | failed (signature : String) (failure : Failure)
  | parameterRead (parameter register : Nat) (value : Value)
  | returnAssigned (value : Value)
  | invokeResultAssigned (value : Value)

namespace Event

def level : Event → Level
  | initializerFailed _ _ => .warning
  | dispatching _ _ | parameterRead _ _ _ | returnAssigned _ | invokeResultAssigned _ => .trace
  | _ => .debug

def text : Event → String
  | loaded classes => "loaded " ++ toString classes ++ " local classes"
  | initializing type depth => "initializing " ++ type.text ++ " at depth " ++ toString depth
  | initializingForeign type depth =>
    "initializing non-local " ++ type.text ++ " at depth " ++ toString depth
  | initializerFailed type failure =>
    "initializer of " ++ type.text ++ " failed: " ++ failure.message
  | spawned method depth => "spawn " ++ method ++ " at depth " ++ toString depth
  | joined method depth => "join " ++ method.getD "<root>" ++ " at depth " ++ toString depth
  | forked depth initialized =>
    "fork at depth " ++ toString depth ++ " with " ++ toString initialized ++
      " initialized classes"
  | exploring paths => "exploring " ++ toString paths ++ " paths"
  | dispatching signature depth => "dispatch " ++ signature ++ " at depth " ++ toString depth
  | threw signature exception condition =>
    signature ++ " threw " ++ exception.descriptor ++ ": " ++ condition.message
  | failed signature failure => signature ++ " failed: " ++ failure.message
  | parameterRead parameter register value =>
    "peek p" ++ toString parameter ++ " (v" ++ toString register ++ ") = " ++ value.text
  | returnAssigned value => "return <- " ++ value.text
  | invokeResultAssigned value => "invoke result <- " ++ value.text

def line (event : Event) : String :=
  event.level.text ++ " " ++ event.text

/-- The lines of a report that leaves out what is less important than `level`. -/
def report (level : Level) (events : List Event) : List String :=
  (events.filter fun event => event.level.rank ≤ level.rank).map line

end Event

end Dalvik
