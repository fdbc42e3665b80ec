/-!
# Access flags

The flags that a field is declared with. All 32 bits are kept, also those that have no name. Whether
a field may be read from outside depends on its visibility, which is decided by the first of the
public, private and protected flags that is set.
-/

namespace Dalvik

structure AccessFlags where
  bits : UInt32
deriving DecidableEq, Inhabited

/-- Who may access a field. -/
inductive Visibility where
  | anyone
  | ownClass
  | subClasses
  | ownPackage
deriving DecidableEq, Inhabited

namespace Visibility

def text : Visibility → String
  | anyone => "public"
  | ownClass => "private"
  | subClasses => "protected"
  | ownPackage => "package-private"

/-- All visibilities, in the order in which they are decided. -/
def all : List Visibility :=
  [anyone, ownClass, subClasses, ownPackage]

end Visibility

namespace AccessFlags

def publicFlag : AccessFlags := ⟨0x0001⟩

def privateFlag : AccessFlags := ⟨0x0002⟩

def protectedFlag : AccessFlags := ⟨0x0004⟩

def staticFlag : AccessFlags := ⟨0x0008⟩

def finalFlag : AccessFlags := ⟨0x0010⟩

def volatileFlag : AccessFlags := ⟨0x0040⟩

def transientFlag : AccessFlags := ⟨0x0080⟩

def syntheticFlag : AccessFlags := ⟨0x1000⟩

def enumFlag : AccessFlags := ⟨0x4000⟩

/-- The flags that have names, in declared order. -/
def named : List (String × AccessFlags) :=
  [("PUBLIC", publicFlag), ("PRIVATE", privateFlag), ("PROTECTED", protectedFlag),
    ("STATIC", staticFlag), ("FINAL", finalFlag), ("VOLATILE", volatileFlag),
    ("TRANSIENT", transientFlag), ("SYNTHETIC", syntheticFlag), ("ENUM", enumFlag)]

instance : OrOp AccessFlags := ⟨fun a b => ⟨a.bits ||| b.bits⟩⟩

instance : AndOp AccessFlags := ⟨fun a b => ⟨a.bits &&& b.bits⟩⟩

instance : XorOp AccessFlags := ⟨fun a b => ⟨a.bits ^^^ b.bits⟩⟩

/-- Every flag that has a name. -/
def known : AccessFlags :=
  named.foldl (fun flags entry => flags ||| entry.2) ⟨0⟩

/-- All flags of `other` are set. -/
def contains (flags other : AccessFlags) : Bool :=
  (flags &&& other) == other

/-- Some flag of `other` is set. -/
def intersects (flags other : AccessFlags) : Bool :=
  (flags &&& other) != ⟨0⟩

def without (flags other : AccessFlags) : AccessFlags :=
  ⟨flags.bits &&& ~~~other.bits⟩

/-- The flags that have a name. -/
def truncated (flags : AccessFlags) : AccessFlags :=
  flags &&& known

/-- The named flags that are not set. -/
def complement (flags : AccessFlags) : AccessFlags :=
  (⟨~~~flags.bits⟩ : AccessFlags).truncated

/-- Every set bit has a name. -/
def isExact (flags : AccessFlags) : Bool :=
  flags.truncated == flags

def names (flags : AccessFlags) : List String :=
  (named.filter fun entry => flags.contains entry.2).map Prod.fst

/-- The visibility, decided by the first of public, private and protected that is set. -/
def visibility (flags : AccessFlags) : Visibility :=
  if flags.contains publicFlag then .anyone
  else if flags.contains privateFlag then .ownClass
  else if flags.contains protectedFlag then .subClasses
  else .ownPackage

def isStatic (flags : AccessFlags) : Bool :=
  flags.contains staticFlag

def isPublic (flags : AccessFlags) : Bool :=
  flags.visibility == .anyone

/-- The flags that reflection reports as the modifiers of a field. -/
def modifierMask : AccessFlags :=
  publicFlag ||| privateFlag ||| protectedFlag ||| staticFlag ||| finalFlag ||| volatileFlag |||
    transientFlag

def modifiers (flags : AccessFlags) : AccessFlags :=
  flags &&& modifierMask

end AccessFlags

end Dalvik
