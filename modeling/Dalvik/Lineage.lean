import Dalvik.Value.Basic

/-!
# Lineages

A lineage is one hypothetical run of the program. Its state is the set of classes whose static
initialization has begun and the values of their static fields; every frame of the run shares it.
The run also has its own supply of identities for the objects that it makes, and a history of what
has happened to its static fields.
-/

namespace Dalvik

/-- Something that happens to the static fields of a run. -/
inductive StaticStep where
  /-- Initialization of a local class begins: the class is marked. -/
  | began (type : TypeDescriptor)
  /-- The static fields of the class get the values that they start with. -/
  | seeded (type : TypeDescriptor)
  /-- The initializer of the class starts to run. -/
  | started (type : TypeDescriptor)
  /-- Initialization of the class is over, successful or not. -/
  | ended (type : TypeDescriptor) (succeeded : Bool)
  /-- A class that is not local is marked. -/
  | foreign (type : TypeDescriptor)
  /-- A static field is read. -/
  | read (field : FieldId) (value : Value)
  /-- A static field is assigned. -/
  | wrote (field : FieldId) (value : Value)

/-- The static state of one run. Every class stands in `initialized` at most once, the one that was
marked first in front. The latest step of the history is in front. -/
structure Lineage where
  initialized : List TypeDescriptor
  statics : Table FieldId Value
  supply : Supply
  history : List StaticStep
deriving Inhabited

namespace Lineage

/-- The state at the start of a run. -/
def start (supply : Supply) : Lineage := ⟨[], .empty, supply, []⟩

/-- The state in which one more thing has happened. -/
def record (lineage : Lineage) (step : StaticStep) : Lineage :=
  { lineage with history := step :: lineage.history }

/-- Initialization of the class has begun. -/
def isInitialized (lineage : Lineage) (type : TypeDescriptor) : Bool :=
  lineage.initialized.contains type

/-- The state in which initialization of the class has begun. -/
def mark (lineage : Lineage) (type : TypeDescriptor) : Lineage :=
  if lineage.isInitialized type then lineage
  else { lineage with initialized := lineage.initialized ++ [type] }

/-- The classes whose initialization has begun, in ascending order. -/
def initializedClasses (lineage : Lineage) : List TypeDescriptor :=
  TypeDescriptor.sort lineage.initialized

def static? (lineage : Lineage) (field : FieldId) : Option Value :=
  lineage.statics.get? field

/-- The state in which a static field holds this value. -/
def store (lineage : Lineage) (field : FieldId) (value : Value) : Lineage :=
  { lineage with statics := lineage.statics.insert field value }

/-- The state with `count` more identities given out. -/
def reserve (lineage : Lineage) (count : Nat) : Lineage :=
  { lineage with supply := lineage.supply.skip count }

section Laws

variable (lineage : Lineage) (step : StaticStep) (type other : TypeDescriptor) (field : FieldId)
  (value : Value)

@[simp] theorem history_record : (lineage.record step).history = step :: lineage.history := rfl

@[simp] theorem initialized_record : (lineage.record step).initialized = lineage.initialized := rfl

@[simp] theorem isInitialized_record :
    (lineage.record step).isInitialized type = lineage.isInitialized type := rfl

@[simp] theorem static?_record : (lineage.record step).static? field = lineage.static? field := rfl

@[simp] theorem history_mark : (lineage.mark type).history = lineage.history := by
  unfold mark; split <;> rfl

@[simp] theorem static?_mark : (lineage.mark type).static? field = lineage.static? field := by
  unfold mark; split <;> rfl

@[simp] theorem isInitialized_mark :
    (lineage.mark type).isInitialized other =
      (lineage.isInitialized other || decide (other = type)) := by
  unfold mark
  split
  · by_cases h : other = type <;> simp_all
  · simp [isInitialized]

@[simp] theorem history_store : (lineage.store field value).history = lineage.history := rfl

@[simp] theorem isInitialized_store :
    (lineage.store field value).isInitialized type = lineage.isInitialized type := rfl

@[simp] theorem initialized_store :
    (lineage.store field value).initialized = lineage.initialized := rfl

@[simp] theorem static?_store_self : (lineage.store field value).static? field = some value :=
  Table.get?_insert_self ..

theorem static?_store_ne {field other : FieldId} (h : field ≠ other) :
    (lineage.store field value).static? other = lineage.static? other :=
  Table.get?_insert_ne _ h _

end Laws

end Lineage

end Dalvik
