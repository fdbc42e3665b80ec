import Dalvik.Method
import Dalvik.Platform

/-!
# Machines

A machine is what stays the same while programs are explored: the configuration, the local classes
with their initializers, the facts about the platform, and the emulated methods. The class hierarchy
that it sees spans local and platform classes.
-/

namespace Dalvik

/-- Everything that runs share. -/
structure Machine where
  config : Config
  statics : StaticFields
  platform : Platform
  methods : MethodTable
deriving Inhabited

namespace Machine

/-- A machine for these classes that knows nothing else but the library's own methods. -/
def ofProgram (program : Program) : Machine where
  config := .standard
  statics := ⟨program, none⟩
  platform := .unavailable
  methods := MethodTable.empty.insertAll Method.builtin

def program (machine : Machine) : Program := machine.statics.program

/-- The class that a class extends: the declared one for a local class, even if it declares none,
and what the platform says for any other. -/
def parent? (machine : Machine) (type : TypeDescriptor) : Option TypeDescriptor :=
  match machine.program.find? type with
  | some definition => definition.parent
  | none => machine.platform.parents.get? type

/-- Whether a value of class `type` is one of `target`: every value is one of the root, and of each
type that is reached from its class. -/
def isInstanceOf (machine : Machine) (type target : TypeDescriptor) : Bool :=
  target.isObject || Hierarchy.climbsThrough machine.parent? target
    (machine.program.names ++ machine.platform.parents.keys) type

/-- The declaration of a reflected field, from the local classes or from the platform. -/
def declaration (machine : Machine) (handle : ReflectedField) : Except Fault DeclaredField :=
  let declared :=
    match handle.source with
    | .localClass => machine.program.declaration? handle.field
    | .platform => machine.platform.declaration handle.field
  match declared with
  | some field => .ok field
  | none => .error (.noSuchField handle.field)

def summary (machine : Machine) : String :=
  "VirtualMachine \x7b config: " ++ machine.config.summary ++ ", classes: " ++
    toString machine.program.size ++ ", methods: " ++ machine.methods.summary ++ ", .. \x7d"

end Machine

end Dalvik
