import Dalvik.StaticFields

/-!
# Emulated methods

The methods whose effect is known without their code. Three of them belong to the library: the reads
of a reflected field, of its name and of its modifiers. All others are scripts. A table holds one
method for each signature.
-/

namespace Dalvik

/-- How an attempt to emulate a call ends. -/
inductive Outcome where
  | notEmulated
  | completed
  | threw (exception : ExceptionClass) (condition : Fault)
deriving DecidableEq, Inhabited

namespace Outcome

def name : Outcome → String
  | notEmulated => "NotEmulated"
  | completed => "Completed"
  | threw _ _ => "Threw"

def isThrow : Outcome → Bool
  | threw _ _ => true
  | _ => false

end Outcome

/-- What the script of an emulated method may ask for. `call` invokes a method in a frame of its
own, whose result is handed over if it is joined; `invoke` invokes one in the active frame. -/
inductive MethodRequest where
  | access (request : StaticRequest)
  | returnUnknown (type : TypeDescriptor)
  | returnAs (type : TypeDescriptor) (value : Value)
  | call (signature : String) (arguments : Registers) (joins : Bool)
  | invoke (signature : String)
  | returnInvokeResult

abbrev MethodRequest.Answer : MethodRequest → Type
  | access request => request.Answer
  | returnUnknown _ => Unit
  | returnAs _ _ => Unit
  | call _ _ _ => Outcome
  | invoke _ => Outcome
  | returnInvokeResult => Unit

/-- A method whose effect is known. -/
inductive Method where
  | fieldGet
  | fieldGetName
  | fieldGetModifiers
  | scripted (signature : String) (body : Script MethodRequest MethodRequest.Answer Unit)

namespace Method

def fieldGetSignature : String :=
  "Ljava/lang/reflect/Field;->get(Ljava/lang/Object;)Ljava/lang/Object;"

def fieldGetNameSignature : String :=
  "Ljava/lang/reflect/Field;->getName()Ljava/lang/String;"

def fieldGetModifiersSignature : String :=
  "Ljava/lang/reflect/Field;->getModifiers()I"

/-- The signature under which a method is found. -/
def signature : Method → String
  | fieldGet => fieldGetSignature
  | fieldGetName => fieldGetNameSignature
  | fieldGetModifiers => fieldGetModifiersSignature
  | scripted signature _ => signature

/-- The methods that the library knows. -/
def builtin : List Method := [fieldGet, fieldGetName, fieldGetModifiers]

end Method

/-- The emulated methods by their signatures. -/
structure MethodTable where
  methods : Table String Method

namespace MethodTable

def empty : MethodTable := ⟨.empty⟩

instance : Inhabited MethodTable := ⟨empty⟩

def get? (table : MethodTable) (signature : String) : Option Method :=
  table.methods.get? signature

def contains (table : MethodTable) (signature : String) : Bool :=
  (table.get? signature).isSome

/-- Adds a method, in the place of the one that has its signature. -/
def insert (table : MethodTable) (method : Method) : MethodTable :=
  ⟨table.methods.insert method.signature method⟩

def insertAll (table : MethodTable) (methods : List Method) : MethodTable :=
  methods.foldl insert table

def size (table : MethodTable) : Nat := table.methods.size

def signatures (table : MethodTable) : List String :=
  table.methods.keys.mergeSort fun a b => decide (a ≤ b)

def summary (table : MethodTable) : String :=
  "EmulatedMethods \x7b methods: [" ++
    ", ".intercalate (table.signatures.map Text.quoted) ++ "] \x7d"

end MethodTable

end Dalvik
