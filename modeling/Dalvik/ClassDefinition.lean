import Dalvik.Value.Basic

/-!
# Class definitions

A class under analysis: its name, the class that it extends, the fields that it declares in order,
and the values with which its static fields start. The fields of a class are owned by it: a member
has no owner of its own.
-/

namespace Dalvik

/-- A field as its class declares it. -/
structure Member where
  name : String
  type : TypeDescriptor
  flags : AccessFlags
deriving DecidableEq, Inhabited

/-- A class under analysis. -/
structure ClassDefinition where
  name : TypeDescriptor
  parent : Option TypeDescriptor
  members : List Member
  initialValues : Table FieldId Value

namespace ClassDefinition

/-- A class that extends the root of the hierarchy and declares no fields. -/
def ofName (name : TypeDescriptor) : ClassDefinition :=
  ⟨name, some .object, [], .empty⟩

/-- The class as an extension of another one, or of none. -/
def withParent (definition : ClassDefinition) (parent : Option TypeDescriptor) : ClassDefinition :=
  { definition with parent }

def idOf (definition : ClassDefinition) (member : Member) : FieldId :=
  ⟨definition.name, member.name, member.type⟩

/-- Declares one more field. -/
def withField (definition : ClassDefinition) (member : Member) : ClassDefinition :=
  { definition with members := definition.members ++ [member] }

/-- Declares one more static field with the value that it starts with. Of two values for one field
the later counts. -/
def withStaticField (definition : ClassDefinition) (member : Member) (value : Value) :
    ClassDefinition :=
  let member := { member with flags := member.flags ||| .staticFlag }
  { definition.withField member with
    initialValues := definition.initialValues.insert (definition.idOf member) value }

def fields (definition : ClassDefinition) : List DeclaredField :=
  definition.members.map fun member => ⟨definition.idOf member, member.flags⟩

def staticFields (definition : ClassDefinition) : List DeclaredField :=
  definition.fields.filter DeclaredField.isStatic

/-- The first declared field with this identity. -/
def declaration? (definition : ClassDefinition) (field : FieldId) : Option DeclaredField :=
  definition.fields.find? fun declared => declared.id = field

def initialValue? (definition : ClassDefinition) (field : FieldId) : Option Value :=
  definition.initialValues.get? field

/-- The value that a static field starts with: the declared one, or that of its type. -/
def startValue (definition : ClassDefinition) (field : FieldId) : Value :=
  (definition.initialValue? field).getD (.default field.type)

theorem owner_of_mem_fields {definition : ClassDefinition} {field : DeclaredField}
    (h : field ∈ definition.fields) : field.owner = definition.name := by
  obtain ⟨member, _, rfl⟩ := List.mem_map.1 h
  rfl

theorem id_of_declaration? {definition : ClassDefinition} {id : FieldId} {field : DeclaredField}
    (h : definition.declaration? id = some field) : field.id = id := by
  simpa using List.find?_some h

end ClassDefinition

end Dalvik
