import Dalvik.ClassDefinition

/-!
# The platform

What is known of classes that are not under analysis: how their fields are declared, which values
those hold, and which class each of them extends. The parents are a finite table, so that a walk
through the hierarchy ends.
-/

namespace Dalvik

/-- A source of facts about classes that are not local. -/
structure Platform where
  declaration : FieldId → Option DeclaredField
  staticContent : DeclaredField → Option Value
  objectContent : DeclaredField → Value → Option Value
  parents : Table TypeDescriptor TypeDescriptor

def Platform.unavailable : Platform where
  declaration _ := none
  staticContent _ := none
  objectContent _ _ := none
  parents := .empty

instance : Inhabited Platform := ⟨.unavailable⟩

/-- Facts that are written down. A value belongs to a static field or to the field of every object,
as the flags of the field say. -/
structure PlatformTable where
  fields : Table FieldId DeclaredField
  values : Table FieldId Value
  parents : Table TypeDescriptor TypeDescriptor
deriving Inhabited

namespace PlatformTable

def empty : PlatformTable := ⟨.empty, .empty, .empty⟩

def withField (table : PlatformTable) (field : DeclaredField) : PlatformTable :=
  { table with fields := table.fields.insert field.id field }

def withValue (table : PlatformTable) (field : DeclaredField) (value : Value) : PlatformTable :=
  { table.withField field with values := table.values.insert field.id value }

def withParent (table : PlatformTable) (type parent : TypeDescriptor) : PlatformTable :=
  { table with parents := table.parents.insert type parent }

def staticContent (table : PlatformTable) (field : DeclaredField) : Option Value :=
  if field.isStatic then table.values.get? field.id else none

/-- The value of a field of an object; none if the object is not known. -/
def objectContent (table : PlatformTable) (field : DeclaredField) (object : Value) :
    Option Value :=
  if field.isStatic || object.isUnknown then none else table.values.get? field.id

/-- The platform of which a table tells everything. -/
def toPlatform (table : PlatformTable) : Platform where
  declaration field := table.fields.get? field
  staticContent := table.staticContent
  objectContent := table.objectContent
  parents := table.parents

end PlatformTable

end Dalvik
