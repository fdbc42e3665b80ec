import Dalvik.Machine

/-!
# Reflection on fields

The effect of `Field.get`, `Field.getName` and `Field.getModifiers`. Each first makes its result
an unknown value of the type that it returns, and replaces it only when everything else has
succeeded. The receiver is parameter 0, and the object whose field is read is parameter 1. Only
public fields may be read. Reading a static field initializes the class that declares it.
-/

namespace Dalvik.Machine

/-- The field on which a method was called; `none` if the receiver is not known. -/
def receiver : Run (Option ReflectedField) := do
  match ← Run.readParameter 0 with
  | .unknown _ => return none
  | .known (.handle _ content) _ => return some content
  | .known _ type => throw (.fault (.unexpectedParameter 0 "field handle" type))

/-- Only public fields may be read. -/
def checkAccess (field : DeclaredField) : Except Fault Unit :=
  if field.isPublic then .ok () else .error (.accessDenied field.id field.visibility)

/-- Initializes the class of a field. A class that is not local is only marked. -/
def initializeOwner (machine : Machine) (owner : TypeDescriptor) : Run Unit := do
  if machine.program.isLocal owner then
    let _ ← machine.statics.initializeOnce owner
  else if ← Run.mark owner (.foreign owner) then
    Run.report (.initializingForeign owner (← Run.frame).depth)

/-- Checks access to a static field and initializes its class, in the configured order. -/
def openStatic (machine : Machine) (field : DeclaredField) : Run Unit :=
  match machine.config.initOrder with
  | .initializeFirst => do
    machine.initializeOwner field.owner
    Run.ofExcept (checkAccess field)
  | .checkAccessFirst => do
    Run.ofExcept (checkAccess field)
    machine.initializeOwner field.owner

/-- The content of a static field. One that is not local has the value that the platform gives. -/
def staticContent (machine : Machine) (field : DeclaredField) : Run Value :=
  if machine.program.isLocal field.owner then
    machine.statics.read field.id
  else
    pure ((machine.platform.staticContent field).getD (.unknown field.type))

/-- The value of a static field that may be read. -/
def readStatic (machine : Machine) (field : DeclaredField) : Run Value := do
  machine.openStatic field
  machine.staticContent field

/-- The class of the object that a value refers to: the declared type stands for it if the value is
not known. -/
def runtimeClass (field : FieldId) : Value → Except Fault TypeDescriptor
  | .unknown type => .ok type
  | .known .null _ => .error (.invalidInstance field .null)
  | .known (.object _ content) _ => .ok content.runtimeClass
  | .known (.string _) _ => .ok .string
  | .known (.handle _ _) _ => .ok .field
  | .known _ type => .error (.invalidInstance field (.incompatible type))

/-- The content of a field of an object that is known to have it. A field of a local class is
tracked in the object, any other has the value that the platform gives. -/
def contentOf (machine : Machine) (field : DeclaredField) (object : Value) : Value :=
  let content? :=
    if object.isUnknown then none
    else if machine.program.isLocal field.owner then
      object.asInstance?.map fun content => content.content field.id
    else machine.platform.objectContent field object
  content?.getD (.unknown field.type)

/-- The value of an instance field. Results of earlier reads arrive boxed. -/
def readInstance (machine : Machine) (field : DeclaredField) (object : Value) :
    Except Fault Value := do
  let object := object.unboxed
  let type ← runtimeClass field.id object
  if machine.isInstanceOf type field.owner then
    return machine.contentOf field object
  else
    throw (.invalidInstance field.id (.incompatible type))

/-- The value that `Field.get` finds: that of the class, or that of the object in parameter 1. -/
def readReflected (machine : Machine) (field : DeclaredField) : Run Value := do
  if field.isStatic then
    machine.readStatic field
  else
    Run.ofExcept (checkAccess field)
    let object ← Run.readParameter 1
    Run.ofExcept (machine.readInstance field object)

/-- `Field.get`: the value of the field, as a reference to any object. -/
def fieldGet (machine : Machine) : Run Unit := do
  Run.returnUnknown .object
  if let some handle ← receiver then
    let field ← Run.ofExcept (machine.declaration handle)
    let value ← machine.readReflected field
    Run.returnAs .object value

/-- `Field.getName`: the name of the field, whether it exists or not. -/
def fieldGetName : Run Unit := do
  Run.returnUnknown .string
  if let some handle ← receiver then
    Run.returnAs .string (.string handle.field.name)

/-- `Field.getModifiers`: the access flags of the field that reflection shows. -/
def fieldGetModifiers (machine : Machine) : Run Unit := do
  Run.returnUnknown .int
  if let some handle ← receiver then
    let field ← Run.ofExcept (machine.declaration handle)
    Run.returnAs .int (.int field.flags.modifiers.bits.toInt32)

end Dalvik.Machine
