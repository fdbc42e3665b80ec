import Dalvik.Decimal
import Dalvik.Fault
import Dalvik.Table

/-!
# Values

A register holds a value: a declared type, and a payload if the content is known. Objects and
field handles carry an identity, and two of them are equal only if they are the same one; numbers
are equal if their bits are. A reference to anything but an object or a string is boxed: a box
holds a value with a declared type of its own.
-/

namespace Dalvik

/-- Tells apart the objects and handles of a run: who made one, and which one it was. -/
structure Identity where
  source : Nat
  serial : Nat
deriving DecidableEq, Inhabited

/-- A supply of identities that have not been given out. -/
structure Supply where
  source : Nat
  next : Nat
deriving DecidableEq, Inhabited

namespace Supply

/-- The untouched supply of a source. -/
def ofSource (source : Nat) : Supply := ⟨source, 0⟩

def identity (supply : Supply) : Identity := ⟨supply.source, supply.next⟩

/-- The supply after `count` more identities have been given out. -/
def skip (supply : Supply) (count : Nat) : Supply := { supply with next := supply.next + count }

end Supply

/-- Who describes a reflected field: the classes under analysis, or the platform. -/
inductive FieldSource where
  | localClass
  | platform
deriving DecidableEq, Inhabited

structure ReflectedField where
  source : FieldSource
  field : FieldId
deriving DecidableEq, Inhabited

mutual

/-- The content of a known value. Floating-point numbers are kept as their bits. -/
inductive Payload where
  | boolean (value : Bool)
  | byte (value : Int8)
  | short (value : Int16)
  | char (value : UInt16)
  | int (value : Int32)
  | long (value : Int64)
  | float (bits : UInt32)
  | double (bits : UInt64)
  | null
  | string (value : String)
  | object (identity : Identity) (content : ObjectState)
  | boxed (content : Value)
  | handle (identity : Identity) (content : ReflectedField)

/-- A tracked value with its declared type. -/
inductive Value where
  | known (payload : Payload) (type : TypeDescriptor)
  | unknown (type : TypeDescriptor)

/-- An object: its class, and those fields whose content is tracked. -/
structure ObjectState where
  runtimeClass : TypeDescriptor
  fields : Table FieldId Value

end

instance : Inhabited Payload := ⟨.null⟩

instance : Inhabited Value := ⟨.unknown .void⟩

instance : Inhabited ObjectState := ⟨⟨.void, .empty⟩⟩

namespace ObjectState

/-- An object none of whose fields is tracked. -/
def ofClass (runtimeClass : TypeDescriptor) : ObjectState := ⟨runtimeClass, .empty⟩

/-- The object in which `field` has this content. -/
def withField (object : ObjectState) (field : FieldId) (value : Value) : ObjectState :=
  { object with fields := object.fields.insert field value }

def content? (object : ObjectState) (field : FieldId) : Option Value :=
  object.fields.get? field

/-- The content of a field; that of a field that is not tracked is unknown. -/
def content (object : ObjectState) (field : FieldId) : Value :=
  (object.content? field).getD (.unknown field.type)

end ObjectState

namespace Payload

def kind : Payload → String
  | boolean _ => "boolean"
  | byte _ => "byte"
  | short _ => "short"
  | char _ => "char"
  | int _ => "int"
  | long _ => "long"
  | float _ => "float"
  | double _ => "double"
  | null => "null"
  | string _ => "string"
  | object _ _ => "object"
  | boxed _ => "boxed"
  | handle _ _ => "field handle"

/-- A payload may stand in a variable of this type. A number needs its own primitive type, null any
reference type; objects and boxes fit every class, since the hierarchy is not looked at. -/
def fits (type : TypeDescriptor) : Payload → Bool
  | boolean _ => type == .primitive .boolean
  | byte _ => type == .primitive .byte
  | short _ => type == .primitive .short
  | char _ => type == .primitive .char
  | int _ => type == .primitive .int
  | long _ => type == .primitive .long
  | float _ => type == .primitive .float
  | double _ => type == .primitive .double
  | null => type.isReference
  | string _ => type.isObject || type == .string
  | object _ _ | boxed _ => type.isNamed
  | handle _ _ => type.isObject || type == .field

end Payload

mutual

/-- Numbers and texts are the same if they are equal bit by bit, objects and handles if they have
one identity, boxes if their contents are. -/
def Payload.same : Payload → Payload → Bool
  | .boolean a, .boolean b => a == b
  | .byte a, .byte b => a == b
  | .short a, .short b => a == b
  | .char a, .char b => a == b
  | .int a, .int b => a == b
  | .long a, .long b => a == b
  | .float a, .float b => a == b
  | .double a, .double b => a == b
  | .null, .null => true
  | .string a, .string b => a == b
  | .object a _, .object b _ => a == b
  | .boxed a, .boxed b => a.same b
  | .handle a _, .handle b _ => a == b
  | _, _ => false

/-- Values are the same if their declared types are equal and their payloads are the same, or both
are unknown. -/
def Value.same : Value → Value → Bool
  | .known a s, .known b t => s == t && a.same b
  | .unknown s, .unknown t => s == t
  | _, _ => false

end

instance : BEq Payload := ⟨Payload.same⟩

instance : BEq Value := ⟨Value.same⟩

namespace Value

/-- A known value, if its payload may have the declared type. -/
def ofPayload (payload : Payload) (type : TypeDescriptor) : Except Fault Value :=
  if payload.fits type then .ok (.known payload type)
  else .error (.typeMismatch type payload.kind)

def null (type : TypeDescriptor) : Except Fault Value :=
  ofPayload .null type

/-- A payload declared with the type that it has by itself; that of null and of a box is the root of
the hierarchy. -/
def ofContent (payload : Payload) : Value :=
  .known payload <|
    match payload with
    | .boolean _ => .primitive .boolean
    | .byte _ => .primitive .byte
    | .short _ => .primitive .short
    | .char _ => .primitive .char
    | .int _ => .primitive .int
    | .long _ => .primitive .long
    | .float _ => .primitive .float
    | .double _ => .primitive .double
    | .null | .boxed _ => .object
    | .string _ => .string
    | .object _ content => content.runtimeClass
    | .handle _ _ => .field

def int (value : Int32) : Value := ofContent (.int value)

def long (value : Int64) : Value := ofContent (.long value)

def boolean (value : Bool) : Value := ofContent (.boolean value)

def double (bits : UInt64) : Value := ofContent (.double bits)

def string (value : String) : Value := ofContent (.string value)

/-- An object, declared with its own class. -/
def object (identity : Identity) (content : ObjectState) : Value :=
  ofContent (.object identity content)

def handle (identity : Identity) (content : ReflectedField) : Value :=
  ofContent (.handle identity content)

def type : Value → TypeDescriptor
  | known _ type | unknown type => type

def payload? : Value → Option Payload
  | known payload _ => some payload
  | unknown _ => none

def isKnown (value : Value) : Bool := value.payload?.isSome

def isUnknown (value : Value) : Bool := !value.isKnown

def isNull : Value → Bool
  | known .null _ => true
  | _ => false

/-- A value as a reference to any object. What is unknown stays unknown. -/
def boxed : Value → Value
  | unknown _ => .unknown .object
  | value => .known (.boxed value) .object

/-- What is inside the outermost box; a value that is not boxed is its own content. -/
def unboxed : Value → Value
  | known (.boxed content) _ => content
  | value => value

/-- The value of a field that was never assigned: zero, false or null. -/
def default (type : TypeDescriptor) : Value :=
  match type with
  | .void => .unknown .void
  | .named _ | .array _ => .known .null type
  | .primitive .boolean => .known (.boolean false) type
  | .primitive .byte => .known (.byte 0) type
  | .primitive .short => .known (.short 0) type
  | .primitive .char => .known (.char 0) type
  | .primitive .int => .known (.int 0) type
  | .primitive .long => .known (.long 0) type
  | .primitive .float => .known (.float 0) type
  | .primitive .double => .known (.double 0) type

def asInt? : Value → Option Int32
  | known (.int value) _ => some value
  | _ => none

def asString? : Value → Option String
  | known (.string value) _ => some value
  | _ => none

def asInstance? : Value → Option ObjectState
  | known (.object _ content) _ => some content
  | _ => none

def asHandle? : Value → Option ReflectedField
  | known (.handle _ content) _ => some content
  | _ => none

end Value

end Dalvik
