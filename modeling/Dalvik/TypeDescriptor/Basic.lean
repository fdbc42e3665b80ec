/-!
# Type descriptors

The types of values and fields in the form that Dalvik gives them: `V` for void, a letter for a
primitive, `Lpkg/Name;` for a class or interface, and `[T` for an array of `T`. The order puts void
first, then the primitives in declared order, then the classes by their text, then the arrays by
their component.
-/

namespace Dalvik

inductive Primitive where
  | boolean
  | byte
  | short
  | char
  | int
  | long
  | float
  | double
deriving DecidableEq, Inhabited

namespace Primitive

def all : List Primitive :=
  [boolean, byte, short, char, int, long, float, double]

def name : Primitive → String
  | boolean => "Boolean"
  | byte => "Byte"
  | short => "Short"
  | char => "Char"
  | int => "Int"
  | long => "Long"
  | float => "Float"
  | double => "Double"

def letter : Primitive → Char
  | boolean => 'Z'
  | byte => 'B'
  | short => 'S'
  | char => 'C'
  | int => 'I'
  | long => 'J'
  | float => 'F'
  | double => 'D'

/-- The position of a primitive type in the declared order. -/
def rank : Primitive → Nat
  | boolean => 0
  | byte => 1
  | short => 2
  | char => 3
  | int => 4
  | long => 5
  | float => 6
  | double => 7

/-- The primitive type with this letter. -/
def ofLetter? (c : Char) : Option Primitive :=
  all.find? fun primitive => primitive.letter == c

/-- A primitive type that takes two registers. -/
def isWide : Primitive → Bool
  | long | double => true
  | _ => false

end Primitive

/-- A type. The descriptor of a class is kept as it was given, also when it is not well formed. -/
inductive TypeDescriptor where
  | void
  | primitive (primitive : Primitive)
  | named (descriptor : String)
  | array (component : TypeDescriptor)
deriving DecidableEq, Inhabited

namespace TypeDescriptor

/-- The root of the class hierarchy. -/
def object : TypeDescriptor := .named "Ljava/lang/Object;"

/-- The class of strings. -/
def string : TypeDescriptor := .named "Ljava/lang/String;"

/-- The class of reflected fields. -/
def field : TypeDescriptor := .named "Ljava/lang/reflect/Field;"

def int : TypeDescriptor := .primitive .int

def text : TypeDescriptor → String
  | void => "V"
  | primitive p => p.letter.toString
  | named descriptor => descriptor
  | array component => "[" ++ component.text

/-- The primitive type that this type is. -/
def asPrimitive? : TypeDescriptor → Option Primitive
  | primitive p => some p
  | _ => none

def isPrimitive (type : TypeDescriptor) : Bool :=
  type.asPrimitive?.isSome

/-- A class or an interface. -/
def isNamed : TypeDescriptor → Bool
  | named _ => true
  | _ => false

/-- A class, an interface or an array. -/
def isReference : TypeDescriptor → Bool
  | named _ | array _ => true
  | _ => false

def isObject (type : TypeDescriptor) : Bool :=
  type == object

/-- A type whose values take two registers. -/
def isWide (type : TypeDescriptor) : Bool :=
  type.asPrimitive?.any Primitive.isWide

/-- The number of registers that a value takes. -/
def width (type : TypeDescriptor) : Nat :=
  if type.isWide then 2 else 1

/-- The order of types: void, primitives, classes, arrays. -/
def compare : TypeDescriptor → TypeDescriptor → Ordering
  | void, void => .eq
  | void, _ => .lt
  | primitive _, void => .gt
  | primitive p, primitive q => Ord.compare p.rank q.rank
  | primitive _, _ => .lt
  | named a, named b => Ord.compare a b
  | named _, array _ => .lt
  | named _, _ => .gt
  | array a, array b => a.compare b
  | array _, _ => .gt

instance : Ord TypeDescriptor := ⟨compare⟩

def sort (types : List TypeDescriptor) : List TypeDescriptor :=
  types.mergeSort fun a b => (a.compare b).isLE

/-- The smallest of some types. -/
def least? : List TypeDescriptor → Option TypeDescriptor
  | [] => none
  | type :: rest =>
    some (rest.foldl (fun least other => if (other.compare least).isLT then other else least) type)

end TypeDescriptor

end Dalvik
