import Dalvik.Access
import Dalvik.TypeDescriptor.Basic

/-!
# Fields

A field is identified by the class that declares it, its name and its declared type, written
`Lpkg/Owner;->name:Type`. A field descriptor adds the access flags, which are no part of the
identity.
-/

namespace Dalvik

/-- The identity of a field. -/
structure FieldId where
  owner : TypeDescriptor
  name : String
  type : TypeDescriptor
deriving DecidableEq, Inhabited

namespace FieldId

def text (field : FieldId) : String :=
  field.owner.text ++ "->" ++ field.name ++ ":" ++ field.type.text

/-- Fields are ordered by owner, then by name, then by type. -/
def compare (a b : FieldId) : Ordering :=
  (a.owner.compare b.owner).then ((Ord.compare a.name b.name).then (a.type.compare b.type))

instance : Ord FieldId := ⟨compare⟩

def sort (fields : List FieldId) : List FieldId :=
  fields.mergeSort fun a b => (a.compare b).isLE

end FieldId

structure DeclaredField where
  id : FieldId
  flags : AccessFlags
deriving DecidableEq, Inhabited

namespace DeclaredField

def owner (field : DeclaredField) : TypeDescriptor := field.id.owner

def type (field : DeclaredField) : TypeDescriptor := field.id.type

def visibility (field : DeclaredField) : Visibility := field.flags.visibility

def isStatic (field : DeclaredField) : Bool := field.flags.isStatic

def isPublic (field : DeclaredField) : Bool := field.flags.isPublic

def text (field : DeclaredField) : String :=
  field.id.text ++ " (" ++ field.visibility.text ++ ")"

end DeclaredField

end Dalvik
