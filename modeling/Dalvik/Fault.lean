import Dalvik.Field.Basic
import Dalvik.Text.Quoted

/-!
# Faults

What can go wrong when values, registers, static fields and emulated methods are used. Three faults
stand for an exception that the emulated call throws; the others are failures of the analysis. Code
outside of the library (class initializers, emulated methods) may also fail with a text of its own.
-/

namespace Dalvik

/-- Why an instance does not serve as the receiver of an instance field. -/
inductive InstanceProblem where
  | null
  | incompatible (found : TypeDescriptor)
deriving DecidableEq, Inhabited

/-- The causes of errors. -/
inductive Fault where
  | noSuchField (field : FieldId)
  | accessDenied (field : FieldId) (visibility : Visibility)
  | invalidInstance (field : FieldId) (problem : InstanceProblem)
  | parameterOutOfRange (index count : Nat)
  | registerOutOfRange (index count : Nat)
  | uninitializedRegister (index : Nat)
  | fieldNotFound (field : FieldId)
  | classNotLocal (type : TypeDescriptor)
  | duplicateClass (type : TypeDescriptor)
  | typeMismatch (expected : TypeDescriptor) (found : String)
  | invalidDescriptor (descriptor : String)
  | unexpectedParameter (index : Nat) (expected : String) (found : TypeDescriptor)
  | callDepthExceeded (depth limit : Nat)
  | initializerFailed (type : TypeDescriptor) (reason : String)
deriving DecidableEq, Inhabited

/-- The classes of the exceptions that emulated calls throw. -/
structure ExceptionClass where
  descriptor : String
deriving DecidableEq, Inhabited

namespace ExceptionClass

/-- Thrown when a reflected field does not exist. -/
def noSuchField : ExceptionClass := ⟨"Ljava/lang/NoSuchFieldException;"⟩

/-- Thrown when a field is not public. -/
def illegalAccess : ExceptionClass := ⟨"Ljava/lang/IllegalAccessException;"⟩

/-- Thrown when the receiver of an instance field is null. -/
def nullPointer : ExceptionClass := ⟨"Ljava/lang/NullPointerException;"⟩

/-- Thrown when the receiver of an instance field has the wrong class. -/
def illegalArgument : ExceptionClass := ⟨"Ljava/lang/IllegalArgumentException;"⟩

def all : List ExceptionClass := [noSuchField, illegalAccess, nullPointer, illegalArgument]

end ExceptionClass

namespace Fault

def name : Fault → String
  | noSuchField _ => "NoSuchField"
  | accessDenied _ _ => "AccessDenied"
  | invalidInstance _ _ => "InvalidInstance"
  | parameterOutOfRange _ _ => "ParameterOutOfRange"
  | registerOutOfRange _ _ => "RegisterOutOfRange"
  | uninitializedRegister _ => "UninitializedRegister"
  | fieldNotFound _ => "FieldNotFound"
  | classNotLocal _ => "ClassNotLocal"
  | duplicateClass _ => "DuplicateClass"
  | typeMismatch _ _ => "TypeMismatch"
  | invalidDescriptor _ => "InvalidDescriptor"
  | unexpectedParameter _ _ _ => "UnexpectedParameter"
  | callDepthExceeded _ _ => "CallDepthExceeded"
  | initializerFailed _ _ => "InitializerFailed"

def message : Fault → String
  | noSuchField field => "no such field: " ++ field.text
  | accessDenied field visibility =>
    "illegal access to " ++ visibility.text ++ " field " ++ field.text
  | invalidInstance field .null => "null instance for instance field " ++ field.text
  | invalidInstance field (.incompatible found) =>
    "instance of " ++ found.text ++ " is not compatible with field " ++ field.text
  | parameterOutOfRange index count =>
    "parameter index " ++ toString index ++ " out of range (count: " ++ toString count ++ ")"
  | registerOutOfRange index count =>
    "register index " ++ toString index ++ " out of range (count: " ++ toString count ++ ")"
  | uninitializedRegister index => "register v" ++ toString index ++ " read before assignment"
  | fieldNotFound field => "static field not found: " ++ field.text
  | classNotLocal type => "class is not local: " ++ type.text
  | duplicateClass type => "duplicate class definition: " ++ type.text
  | typeMismatch expected found => found ++ " payload is not assignable to " ++ expected.text
  | invalidDescriptor descriptor => "invalid descriptor: " ++ Text.quoted descriptor
  | unexpectedParameter index expected found =>
    "parameter " ++ toString index ++ ": expected " ++ expected ++ ", found " ++ found.text
  | callDepthExceeded depth limit =>
    "call depth exceeded: " ++ toString depth ++ " (limit: " ++ toString limit ++ ")"
  | initializerFailed type reason =>
    "static initialization of " ++ type.text ++ " failed: " ++ reason

/-- The exception that the emulated call throws for a fault; `none` for a failure of the analysis.
-/
def exceptionClass? : Fault → Option ExceptionClass
  | noSuchField _ => some .noSuchField
  | accessDenied _ _ => some .illegalAccess
  | invalidInstance _ .null => some .nullPointer
  | invalidInstance _ (.incompatible _) => some .illegalArgument
  | _ => none

def isThrown (fault : Fault) : Bool :=
  fault.exceptionClass?.isSome

end Fault

/-- How a run fails: with a fault, or with a text that outside code gives. -/
inductive Failure where
  | fault (fault : Fault)
  | other (text : String)
deriving DecidableEq, Inhabited

namespace Failure

def name : Failure → String
  | fault f => f.name
  | other _ => "Error"

def message : Failure → String
  | fault f => f.message
  | other text => text

def fault? : Failure → Option Fault
  | fault f => some f
  | other _ => none

end Failure

instance : Coe Fault Failure := ⟨.fault⟩

end Dalvik
