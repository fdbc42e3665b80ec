import Dalvik.Action
import Dalvik.Proofs.Values.Holding

/-!
# Values in runs

If all values that a machine is given have some property, those in its class definitions, from its
platform and in its scripts, and the library makes no other ones out of them, then so have all that
its code meets: whatever is accessed, initialized, invoked or done in a frame.
-/

namespace Dalvik

open Run

section Given

variable (P : Value → Prop)

/-- Every value in the request has the property. -/
def StaticRequest.Holds : StaticRequest → Prop
  | .write _ value | .assignReturn value => P value
  | _ => True

/-- Every value in the answer has the property. -/
def StaticRequest.Answered : (request : StaticRequest) → request.Answer → Prop
  | .read _, value => P value
  | .parameter _, value => P value
  | .write _ _, _ | .initializeOnce _, _ | .isInitialized _, _ | .depth, _ | .assignReturn _, _
  | .note _, _ | .reserve _, _ => True

/-- Every value in the request has the property. -/
def MethodRequest.Holds : MethodRequest → Prop
  | .access request => request.Holds P
  | .returnAs _ value => P value
  | .call _ arguments _ => arguments.Holds P
  | .returnUnknown _ | .invoke _ | .returnInvokeResult => True

/-- Every value in the answer has the property. -/
def MethodRequest.Answered : (request : MethodRequest) → request.Answer → Prop
  | .access request, answer => request.Answered P answer
  | .returnUnknown _, _ | .returnAs _ _, _ | .call _ _ _, _ | .invoke _, _
  | .returnInvokeResult, _ => True

/-- The values with which static fields start have the property, and so have those that initializers
put anywhere, as long as those that they are given do. -/
structure StaticFields.Holds (statics : StaticFields) : Prop where
  startValue {type : TypeDescriptor} {definition : ClassDefinition} {field : FieldId}
      {value : Value} :
    statics.program.find? type = some definition → definition.initialValue? field = some value →
    P value
  initializer {initializer : ClassInitializer} (type : TypeDescriptor) :
    statics.initializer = some initializer →
    (initializer type).Respects (StaticRequest.Holds P) (StaticRequest.Answered P)

/-- The values of the platform have the property, those of fields of objects as long as the object
does. -/
structure Platform.Holds (platform : Platform) : Prop where
  staticContent {field : DeclaredField} {value : Value} :
    platform.staticContent field = some value → P value
  objectContent {field : DeclaredField} {object value : Value} :
    P object → platform.objectContent field object = some value → P value

/-- The values that the method puts anywhere have the property, as long as those that it is given
do. -/
def Method.Holds : Method → Prop
  | .fieldGet | .fieldGetName | .fieldGetModifiers => True
  | .scripted _ body => body.Respects (MethodRequest.Holds P) (MethodRequest.Answered P)

/-- The values that a machine is given have the property. -/
structure Machine.Holds (machine : Machine) : Prop where
  statics : machine.statics.Holds P
  platform : machine.platform.Holds P
  methods {signature : String} {method : Method} :
    machine.methods.get? signature = some method → method.Holds P

/-- Every value in the action has the property. -/
def Action.Holds : Action → Prop
  | .assignParameter _ value | .assign _ value | .assignReturn value | .assignInvokeResult value
  | .writeStatic _ value => P value
  | .replaceRegisters registers | .call registers _ => registers.Holds P
  | _ => True

/-- Every value in the reply has the property. -/
def Reply.Holds : Reply → Prop
  | .value result => ∀ value ∈ result, P value
  | _ => True

end Given

variable {P : Value → Prop}

/-- A method that is found was added or there before. -/
theorem MethodTable.mem_or_get?_of_insertAll {table : MethodTable} {methods : List Method}
    {signature : String} {method : Method}
    (h : (table.insertAll methods).get? signature = some method) :
    method ∈ methods ∨ table.get? signature = some method := by
  induction methods generalizing table with
  | nil => exact .inr h
  | cons added rest ih =>
    rcases ih h with hrest | hfound
    · exact .inl (List.mem_cons_of_mem _ hrest)
    · change (table.methods.insert added.signature added).get? signature = some method at hfound
      by_cases hsame : added.signature = signature
      · subst hsame
        rw [Table.get?_insert_self] at hfound
        cases hfound
        exact .inl List.mem_cons_self
      · rw [Table.get?_insert_ne _ hsame] at hfound
        exact .inr hfound

/-- The library's own methods are given no values. -/
theorem Method.holds_builtin {signature : String} {method : Method}
    (h : (MethodTable.empty.insertAll builtin).get? signature = some method) : method.Holds P := by
  rcases MethodTable.mem_or_get?_of_insertAll h with hbuiltin | hnone
  · simp only [builtin, List.mem_cons, List.not_mem_nil, or_false] at hbuiltin
    rcases hbuiltin with rfl | rfl | rfl <;> trivial
  · cases hnone

/-! ## Static fields -/

namespace StaticFields

variable {statics : StaticFields} {prepare : TypeDescriptor → Run Bool}

theorem Holds.startValue_of_find (hclosed : Value.Closed P) (h : statics.Holds P)
    {type : TypeDescriptor} {definition : ClassDefinition}
    (hfind : statics.program.find? type = some definition) (field : FieldId) :
    P (definition.startValue field) := by
  unfold ClassDefinition.startValue
  cases hvalue : definition.initialValue? field with
  | none => exact hclosed.default _
  | some value => exact h.startValue hfind hvalue

theorem carries_readWith (hclosed : Value.Closed P)
    (hprepare : ∀ type, Carries P Anything (prepare type)) (field : FieldId) :
    Carries P P (statics.readWith prepare field) := by
  refine .bind (.ofExcept (Q := Anything) fun _ _ => trivial) fun declared _ => ?_
  refine .bind (hprepare _) fun _ _ => .bind .lineage fun lineage hlineage => ?_
  have hvalue : P ((lineage.static? field).getD (.default field.type)) := by
    cases hfound : lineage.static? field with
    | none => exact hclosed.default _
    | some value => exact hlineage.statics field value hfound
  exact .bind (.record (holds_of_mem_some hvalue)) fun _ _ => .pure hvalue

theorem carries_writeWith (hprepare : ∀ type, Carries P Anything (prepare type)) (field : FieldId)
    {value : Value} (h : P value) : Carries P Anything (statics.writeWith prepare field value) := by
  refine .bind (.ofExcept (Q := Anything) fun _ _ => trivial) fun declared _ => ?_
  refine .bind (.ofExcept (Q := Anything) fun _ _ => trivial) fun _ _ => ?_
  refine .bind (hprepare _) fun _ _ => .modifyLineage fun lineage hlineage => ?_
  exact (hlineage.store field h).record (holds_of_mem_some h)

theorem carries_serveWith (hclosed : Value.Closed P)
    (hprepare : ∀ type, Carries P Anything (prepare type)) (request : StaticRequest)
    (h : request.Holds P) :
    Carries P (request.Answered P) (statics.serveWith prepare request) := by
  cases request with
  | read field => exact carries_readWith hclosed hprepare field
  | write field value => exact carries_writeWith hprepare field h
  | initializeOnce type => exact hprepare type
  | isInitialized type => exact .bind .lineage fun _ _ => .pure trivial
  | depth => exact .bind .frame fun _ _ => .pure trivial
  | parameter index => exact .readParameter index
  | assignReturn value => exact .assignReturn h
  | note text => exact .note text
  | reserve count =>
    refine .bind .lineage fun _ _ => .bind (.modifyLineage ?_) fun _ _ => .pure trivial
    exact fun _ hlineage => hlineage.withSupply _

theorem carries_initializeMarked (hclosed : Value.Closed P) (h : statics.Holds P)
    (hprepare : ∀ type, Carries P Anything (prepare type)) {type : TypeDescriptor}
    {definition : ClassDefinition} (hfind : statics.program.find? type = some definition) :
    Carries P Anything (statics.initializeMarked prepare definition) := by
  refine .bind (Q := Anything) ?_ fun _ _ => .bind (Q := Anything) ?_ fun _ _ => ?_
  · cases definition.parent with
    | none => exact .pure trivial
    | some parent => exact .bind (hprepare parent) fun _ _ => .pure trivial
  · refine .bind .frame fun _ _ => .bind (.report _) fun _ _ => .modifyLineage ?_
    exact fun _ hlineage => (hlineage.seed (h.startValue_of_find hclosed hfind)).record nofun
  · unfold runInitializer
    cases hcode : statics.initializer with
    | none => exact .pure trivial
    | some initializer =>
      have hbody : Carries P Anything
          ((initializer definition.name).run (statics.serveWith prepare)) :=
        .script (carries_serveWith hclosed hprepare) (h.initializer definition.name hcode)
      refine .bind (.record nofun) fun _ _ => .bind (.attempt hbody) fun result _ => ?_
      cases result with
      | ok => exact .pure trivial
      | error failure => exact .bind (.report _) fun _ _ => .throw _

theorem carries_initializeWithin (hclosed : Value.Closed P) (h : statics.Holds P) (nesting : Nat)
    (type : TypeDescriptor) : Carries P Anything (statics.initializeWithin nesting type) := by
  induction nesting generalizing type with
  | zero => exact .pure trivial
  | succ nesting ih =>
    unfold initializeWithin
    cases hfind : statics.program.find? type with
    | none => exact .pure trivial
    | some definition =>
      refine .bind (.mark _ nofun) fun marked _ => ?_
      cases marked with
      | false => exact .pure trivial
      | true =>
        refine .bind (.attempt (carries_initializeMarked hclosed h ih hfind)) fun result _ => ?_
        refine .bind (.record nofun) fun _ _ => ?_
        cases result with
        | ok => exact .pure trivial
        | error failure => exact .throw failure

theorem carries_initializeOnce (hclosed : Value.Closed P) (h : statics.Holds P)
    (type : TypeDescriptor) : Carries P Anything (statics.initializeOnce type) :=
  carries_initializeWithin hclosed h _ type

theorem carries_read (hclosed : Value.Closed P) (h : statics.Holds P) (field : FieldId) :
    Carries P P (statics.read field) :=
  carries_readWith hclosed (carries_initializeOnce hclosed h) field

theorem carries_serve (hclosed : Value.Closed P) (h : statics.Holds P) (request : StaticRequest)
    (hrequest : request.Holds P) : Carries P (request.Answered P) (statics.serve request) :=
  carries_serveWith hclosed (carries_initializeOnce hclosed h) request hrequest

end StaticFields

/-! ## Methods -/

namespace Machine

variable {machine : Machine}

theorem carries_receiver : Carries P Anything receiver := by
  refine .bind (.readParameter 0) fun value _ => ?_
  split
  · exact .pure trivial
  · exact .pure trivial
  · exact .throw _

theorem carries_initializeOwner (hclosed : Value.Closed P) (h : machine.Holds P)
    (owner : TypeDescriptor) : Carries P Anything (machine.initializeOwner owner) := by
  refine .ite (.bind (StaticFields.carries_initializeOnce hclosed h.statics owner) fun _ _ =>
    .pure trivial) ?_
  exact .bind (.mark _ nofun) fun _ _ =>
    .ite (.bind .frame fun _ _ => .report _) (.pure trivial)

theorem carries_readStatic (hclosed : Value.Closed P) (h : machine.Holds P)
    (field : DeclaredField) : Carries P P (machine.readStatic field) := by
  have howner := carries_initializeOwner hclosed h field.owner
  refine .bind (Q := Anything) ?_ fun _ _ => ?_
  · unfold openStatic
    split
    · exact .bind howner fun _ _ => .ofExcept fun _ _ => trivial
    · exact .bind (.ofExcept (Q := Anything) fun _ _ => trivial) fun _ _ => howner
  · refine .ite (StaticFields.carries_read hclosed h.statics field.id) (.pure ?_)
    cases hvalue : machine.platform.staticContent field with
    | none => exact hclosed.unknown _
    | some value => exact h.platform.staticContent hvalue

/-- What is read out of an object has the property that the object has. -/
theorem Holds.contentOf (hclosed : Value.Closed P) (h : machine.Holds P) {object : Value}
    (hobject : P object) (field : DeclaredField) : P (machine.contentOf field object) := by
  unfold Machine.contentOf
  by_cases hunknown : object.isUnknown = true
  · simp only [hunknown, if_true]
    exact hclosed.unknown _
  by_cases hlocal : machine.program.isLocal field.owner = true
  · -- Only an object has tracked fields; of any other value nothing is known.
    simp only [hunknown, hlocal, if_true]
    rcases object with ⟨payload, type⟩ | type
    · cases payload with
      | object identity content =>
        show P ((content.content? field.id).getD (.unknown field.id.type))
        cases hvalue : content.content? field.id with
        | none => exact hclosed.unknown _
        | some value => exact hclosed.tracked hobject hvalue
      | _ => exact hclosed.unknown _
    · exact hclosed.unknown _
  · simp only [hunknown, hlocal]
    cases hvalue : machine.platform.objectContent field object with
    | none => exact hclosed.unknown _
    | some value => exact h.platform.objectContent hobject hvalue

theorem Holds.readInstance (hclosed : Value.Closed P) (h : machine.Holds P) {object value : Value}
    (hobject : P object) {field : DeclaredField}
    (hread : machine.readInstance field object = .ok value) : P value := by
  cases hclass : runtimeClass field.id object.unboxed with
  | error fault => simp only [Machine.readInstance, hclass] at hread; cases hread
  | ok type =>
    simp only [Machine.readInstance, hclass, Bind.bind, Except.bind] at hread
    split at hread
    · cases hread
      exact h.contentOf hclosed (hclosed.unboxed hobject) field
    · cases hread

theorem carries_readReflected (hclosed : Value.Closed P) (h : machine.Holds P)
    (field : DeclaredField) : Carries P P (machine.readReflected field) := by
  refine .ite (carries_readStatic hclosed h field) ?_
  refine .bind (.ofExcept (Q := Anything) fun _ _ => trivial) fun _ _ => ?_
  refine .bind (.readParameter 1) fun object hobject => .ofExcept fun value hread => ?_
  exact h.readInstance hclosed hobject hread

/-- A method makes its result unknown, looks at its receiver and goes on with the field. -/
theorem carries_find (hclosed : Value.Closed P) (result : TypeDescriptor)
    {find : ReflectedField → Run Unit} (hfind : ∀ handle, Carries P Anything (find handle)) :
    Carries P Anything (do
      Run.returnUnknown result
      if let some handle ← receiver then find handle) := by
  refine .bind (.returnUnknown hclosed _) fun _ _ => .bind carries_receiver fun handle _ => ?_
  cases handle with
  | none => exact .pure trivial
  | some handle => exact hfind handle

theorem carries_fieldGet (hclosed : Value.Closed P) (h : machine.Holds P) :
    Carries P Anything machine.fieldGet := by
  refine carries_find hclosed _ fun handle => ?_
  refine .bind (.ofExcept (Q := Anything) fun _ _ => trivial) fun field _ => ?_
  exact .bind (carries_readReflected hclosed h field) fun _ hvalue => .returnAs hclosed _ hvalue

theorem carries_fieldGetName (hclosed : Value.Closed P) : Carries P Anything fieldGetName :=
  carries_find hclosed _ fun _ => .returnAs hclosed _ (hclosed.string _)

theorem carries_fieldGetModifiers (hclosed : Value.Closed P) :
    Carries P Anything machine.fieldGetModifiers := by
  refine carries_find hclosed _ fun handle => ?_
  refine .bind (.ofExcept (Q := Anything) fun _ _ => trivial) fun field _ => ?_
  exact .returnAs hclosed _ (hclosed.int _)

theorem carries_serveWith (hclosed : Value.Closed P) (h : machine.Holds P)
    {invoke : String → Run Outcome} (hinvoke : ∀ signature, Carries P Anything (invoke signature))
    (request : MethodRequest) (hrequest : request.Holds P) :
    Carries P (request.Answered P) (machine.serveWith invoke request) := by
  cases request with
  | access request => exact StaticFields.carries_serve hclosed h.statics request hrequest
  | returnUnknown type => exact .returnUnknown hclosed type
  | returnAs type value => exact .returnAs hclosed type hrequest
  | call signature arguments joins =>
    refine .bind (.call signature hrequest) fun callee hcallee => ?_
    refine .bind (.inFrame hcallee (hinvoke signature)) fun out hout => ?_
    obtain ⟨outcome, frame⟩ := out
    cases joins with
    | false => exact .pure trivial
    | true => exact .bind (.join hout.2) fun _ _ => .pure trivial
  | invoke signature => exact hinvoke signature
  | returnInvokeResult =>
    refine .bind .takeInvokeResult fun result hresult => ?_
    cases result with
    | none => exact .pure trivial
    | some value => exact .assignReturn (hresult value rfl)

theorem carries_runWith (hclosed : Value.Closed P) (h : machine.Holds P)
    {invoke : String → Run Outcome} (hinvoke : ∀ signature, Carries P Anything (invoke signature))
    {method : Method} (hmethod : method.Holds P) :
    Carries P Anything (machine.runWith invoke method) := by
  cases method with
  | fieldGet => exact carries_fieldGet hclosed h
  | fieldGetName => exact carries_fieldGetName hclosed
  | fieldGetModifiers => exact carries_fieldGetModifiers hclosed
  | scripted signature body => exact .script (carries_serveWith hclosed h hinvoke) hmethod

theorem carries_conclude (signature : String) (result : Except Failure Unit) :
    Carries P Anything (conclude signature result) := by
  unfold conclude
  split
  · exact .pure trivial
  · split
    · exact .bind (.report _) fun _ _ => .pure trivial
    · exact .bind (.report _) fun _ _ => .throw _

theorem carries_invokeWithin (hclosed : Value.Closed P) (h : machine.Holds P) (nesting : Nat)
    (signature : String) : Carries P Anything (machine.invokeWithin nesting signature) := by
  induction nesting generalizing signature with
  | zero => exact .throw _
  | succ nesting ih =>
    unfold invokeWithin
    cases hmethod : machine.methods.get? signature with
    | none => exact .pure trivial
    | some method =>
      have hrun : Carries P Anything (do
          conclude signature
            (← Run.attempt (machine.runWith (machine.invokeWithin nesting) method))) :=
        .bind (.attempt (carries_runWith hclosed h ih (h.methods hmethod))) fun _ _ =>
          carries_conclude signature _
      exact .ite (.bind .frame fun _ _ => .bind (.report _) fun _ _ => hrun) hrun

/-! ## Actions -/

theorem carries_execute (hclosed : Value.Closed P) (h : machine.Holds P) (signature : String) :
    Carries P Anything (machine.execute signature) := by
  unfold execute
  cases hmethod : machine.methods.get? signature with
  | none => exact .pure trivial
  | some method =>
    refine .bind (carries_runWith hclosed h ?_ (h.methods hmethod)) fun _ _ => .pure trivial
    exact carries_invokeWithin hclosed h maxNesting

/-- What is done in a frame with values that have the property ends with such values. -/
theorem carries_act (hclosed : Value.Closed P) (h : machine.Holds P) {action : Action}
    (haction : action.Holds P) : Carries P (Reply.Holds P) (machine.act action) := by
  have hinvoke := carries_invokeWithin hclosed h maxNesting
  cases action with
  | readParameter parameter =>
    exact .bind (.readParameter parameter) fun value hvalue => .pure (holds_of_mem_some hvalue)
  | assignParameter parameter value =>
    refine .bind .registers fun registers hregisters => ?_
    refine .bind (Q := Registers.Holds P) (.ofExcept ?_) fun assigned hassigned => ?_
    · exact fun _ hassign => hregisters.assignParameter haction hassign
    · exact .bind (.setRegisters hassigned) fun _ _ => .pure trivial
  | read register =>
    refine .bind .registers fun registers hregisters => ?_
    refine .bind (Q := P) (.ofExcept fun _ hread => hregisters.read hread) ?_
    exact fun value hvalue => .pure (holds_of_mem_some hvalue)
  | assign register value =>
    refine .bind .registers fun registers hregisters => ?_
    refine .bind (Q := Registers.Holds P) (.ofExcept ?_) fun assigned hassigned => ?_
    · exact fun _ hassign => hregisters.assign haction hassign
    · exact .bind (.setRegisters hassigned) fun _ _ => .pure trivial
  | readReturn => exact .bind .registers fun _ hregisters => .pure hregisters.returnValue
  | assignReturn value => exact .bind (.assignReturn haction) fun _ _ => .pure trivial
  | takeReturn => exact .bind .takeReturn fun _ hresult => .pure hresult
  | readInvokeResult => exact .bind .registers fun _ hregisters => .pure hregisters.invokeResult
  | assignInvokeResult value => exact .bind (.assignInvokeResult haction) fun _ _ => .pure trivial
  | clearInvokeResult => exact .bind .clearInvokeResult fun _ _ => .pure trivial
  | takeInvokeResult => exact .bind .takeInvokeResult fun _ hresult => .pure hresult
  | setTraced traced =>
    refine .bind .registers fun registers hregisters => ?_
    exact .bind (.setRegisters (hregisters.setTraced traced)) fun _ _ => .pure trivial
  | replaceRegisters registers => exact .bind (.setRegisters haction) fun _ _ => .pure trivial
  | readStatic field =>
    refine .bind (StaticFields.carries_read hclosed h.statics field) fun value hvalue => ?_
    exact .pure (holds_of_mem_some hvalue)
  | writeStatic field value =>
    refine .bind (StaticFields.carries_writeWith ?_ field haction) fun _ _ => .pure trivial
    exact StaticFields.carries_initializeOnce hclosed h.statics
  | initializeOnce type =>
    refine .bind (StaticFields.carries_initializeOnce hclosed h.statics type) fun _ _ => ?_
    exact .pure trivial
  | isInitialized type => exact .bind .lineage fun _ _ => .pure trivial
  | invoke signature => exact .bind (hinvoke signature) fun _ _ => .pure trivial
  | call arguments signature =>
    refine .bind (.setRegisters haction) fun _ _ => ?_
    exact .bind (hinvoke signature) fun _ _ => .pure trivial
  | execute signature =>
    exact .bind (carries_execute hclosed h signature) fun _ _ => .pure trivial
  | pass => exact .pure trivial

end Machine

end Dalvik
