import Dalvik.Program
import Dalvik.Execution
import Dalvik.Script

/-!
# Static fields

Access to the static fields of local classes. The first access to a class within a lineage
initializes it: the class is marked, its parent is initialized if it is local, every static field
gets the value that it starts with, and the class initializer runs. The initializer may access
static fields itself; since a class is marked before anything else happens, every nested
initialization is that of another class, and their number is bounded by the number of local
classes.
-/

namespace Dalvik

/-- What a class initializer may ask for. The context that it runs in would also let it spawn, join
and fork others; this is left out. -/
inductive StaticRequest where
  | read (field : FieldId)
  | write (field : FieldId) (value : Value)
  | initializeOnce (type : TypeDescriptor)
  | isInitialized (type : TypeDescriptor)
  | depth
  | parameter (index : Nat)
  | assignReturn (value : Value)
  | note (text : String)
  | reserve (count : Nat)

abbrev StaticRequest.Answer : StaticRequest → Type
  | read _ => Value
  | write _ _ => Unit
  | initializeOnce _ => Bool
  | isInitialized _ => Bool
  | depth => Nat
  | parameter _ => Value
  | assignReturn _ => Unit
  | note _ => Unit
  | reserve _ => Supply

/-- The class initializers: the code that runs when a class is initialized. -/
abbrev ClassInitializer := TypeDescriptor → Script StaticRequest StaticRequest.Answer Unit

/-- The static fields of local classes. -/
structure StaticFields where
  program : Program
  initializer : Option ClassInitializer
deriving Inhabited

namespace Lineage

/-- The lineage in which the static fields of a class have the values that they start with. -/
def seed (lineage : Lineage) (definition : ClassDefinition) : Lineage :=
  definition.staticFields.foldl
    (fun lineage field => lineage.store field.id (definition.startValue field.id)) lineage

@[simp] theorem history_seed (lineage : Lineage) (definition : ClassDefinition) :
    (lineage.seed definition).history = lineage.history := by
  unfold seed
  induction definition.staticFields generalizing lineage with
  | nil => rfl
  | cons field rest ih => rw [List.foldl_cons, ih, history_store]

@[simp] theorem initialized_seed (lineage : Lineage) (definition : ClassDefinition) :
    (lineage.seed definition).initialized = lineage.initialized := by
  unfold seed
  induction definition.staticFields generalizing lineage with
  | nil => rfl
  | cons field rest ih => rw [List.foldl_cons, ih, initialized_store]

@[simp] theorem isInitialized_seed (lineage : Lineage) (definition : ClassDefinition)
    (type : TypeDescriptor) :
    (lineage.seed definition).isInitialized type = lineage.isInitialized type := by
  rw [isInitialized, initialized_seed, isInitialized]

theorem static?_seed (lineage : Lineage) (definition : ClassDefinition) (field : FieldId) :
    (lineage.seed definition).static? field =
      if field ∈ definition.staticFields.map (·.id) then some (definition.startValue field)
      else lineage.static? field := by
  unfold seed
  induction definition.staticFields generalizing lineage with
  | nil => simp
  | cons declared rest ih =>
    rw [List.foldl_cons, ih]
    by_cases h : declared.id = field
    · simp [h]
    · simp [static?_store_ne _ _ h, Ne.symm h]

end Lineage

namespace StaticFields

/-- The declaration of a static field of a local class. -/
def resolve (statics : StaticFields) (field : FieldId) : Except Fault DeclaredField :=
  match statics.program.declaration? field with
  | some declared => if declared.isStatic then .ok declared else .error (.fieldNotFound field)
  | none => .error (.fieldNotFound field)

theorem resolve_ok {statics : StaticFields} {field : FieldId} {declared : DeclaredField}
    (h : statics.resolve field = .ok declared) :
    declared.id = field ∧ ∃ definition, statics.program.find? field.owner = some definition ∧
      declared ∈ definition.staticFields := by
  unfold resolve at h
  split at h
  · rename_i found hfound
    split at h
    · rename_i hstatic
      cases h
      obtain ⟨definition, hfind, hdeclared⟩ := Option.bind_eq_some_iff.1 hfound
      exact ⟨ClassDefinition.id_of_declaration? hdeclared, definition, hfind,
        List.mem_filter.2 ⟨List.mem_of_find?_eq_some hdeclared, hstatic⟩⟩
    · cases h
  · cases h

/-- A known value may be put into a field only if its payload fits; an unknown one always may. -/
def checkWrite (field : FieldId) (value : Value) : Except Fault Unit :=
  match value.payload? with
  | some payload =>
    if payload.fits field.type then .ok ()
    else .error (.typeMismatch field.type payload.kind)
  | none => .ok ()

section Access

variable (statics : StaticFields) (prepare : TypeDescriptor → Run Bool)

/-- The value of a static field, after `prepare` was asked to initialize its class. -/
def readWith (field : FieldId) : Run Value := do
  let declared ← Run.ofExcept (statics.resolve field)
  let _ ← prepare declared.owner
  let value := ((← Run.lineage).static? field).getD (.default field.type)
  Run.record (.read field value)
  return value

/-- Assigns a static field, after `prepare` was asked to initialize its class. -/
def writeWith (field : FieldId) (value : Value) : Run Unit := do
  let declared ← Run.ofExcept (statics.resolve field)
  Run.ofExcept (checkWrite field value)
  let _ ← prepare declared.owner
  Run.modifyLineage fun lineage => (lineage.store field value).record (.wrote field value)

/-- Answers a request; classes are initialized by `prepare`. -/
def serveWith : (request : StaticRequest) → Run request.Answer
  | .read field => statics.readWith prepare field
  | .write field value => statics.writeWith prepare field value
  | .initializeOnce type => prepare type
  | .isInitialized type => return (← Run.lineage).isInitialized type
  | .depth => return (← Run.frame).depth
  | .parameter index => Run.readParameter index
  | .assignReturn value => Run.assignReturn value
  | .note text => Run.note text
  | .reserve count => do
    let supply := (← Run.lineage).supply
    Run.modifyLineage (·.reserve count)
    return supply

/-- Initializes the class that a class extends, if there is one. -/
def initializeParent : Option TypeDescriptor → Run Unit
  | none => pure ()
  | some parent => do
    let _ ← prepare parent

/-- Gives the static fields of a class the values that they start with. -/
def seedFields (definition : ClassDefinition) : Run Unit := do
  Run.report (.initializing definition.name (← Run.frame).depth)
  Run.modifyLineage fun lineage => (lineage.seed definition).record (.seeded definition.name)

/-- Runs the initializer of a class. Its failure becomes a failure of the initialization. -/
def runInitializer (type : TypeDescriptor) : Run Unit :=
  match statics.initializer with
  | none => pure ()
  | some initializer => do
    Run.record (.started type)
    match ← Run.attempt ((initializer type).run (statics.serveWith prepare)) with
    | .ok () => pure ()
    | .error failure =>
      Run.report (.initializerFailed type failure)
      throw (.fault (.initializerFailed type failure.message))

/-- What there is to do for a class that has just been marked. -/
def initializeMarked (definition : ClassDefinition) : Run Unit := do
  initializeParent prepare definition.parent
  seedFields definition
  statics.runInitializer prepare definition.name

end Access

/-- Initializes a local class that is not marked; answers whether it did. At most `nesting`
initializations are in progress at once. Since each of them has marked another local class, there is
nothing left to initialize when as many are in progress as there are local classes. -/
def initializeWithin (statics : StaticFields) : Nat → TypeDescriptor → Run Bool
  | 0, _ => pure false
  | nesting + 1, type =>
    match statics.program.find? type with
    | none => pure false
    | some definition => do
      if ← Run.mark type (.began type) then
        let result ← Run.attempt
          (statics.initializeMarked (statics.initializeWithin nesting) definition)
        Run.record (.ended type result.isOk)
        Run.conclude (result.map fun _ => true)
      else
        return false

/-- Initializes a local class unless the lineage has done so; answers whether it did. -/
def initializeOnce (statics : StaticFields) (type : TypeDescriptor) : Run Bool :=
  statics.initializeWithin statics.program.size type

def read (statics : StaticFields) (field : FieldId) : Run Value :=
  statics.readWith statics.initializeOnce field

def write (statics : StaticFields) (field : FieldId) (value : Value) : Run Unit :=
  statics.writeWith statics.initializeOnce field value

/-- Answers a request that does not come from an initialization in progress. -/
def serve (statics : StaticFields) : (request : StaticRequest) → Run request.Answer :=
  statics.serveWith statics.initializeOnce

def fieldsOf (statics : StaticFields) (type : TypeDescriptor) : Except Fault (List FieldId) :=
  (statics.program.fieldsOf type).map fun fields =>
    (fields.filter DeclaredField.isStatic).map (·.id)

def summary (statics : StaticFields) : String :=
  "StaticFieldStore \x7b classes: " ++ toString statics.program.size ++ ", initializer: " ++
    Text.word statics.initializer.isSome ++ " \x7d"

end StaticFields

end Dalvik
