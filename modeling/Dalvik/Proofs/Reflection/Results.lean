import Dalvik.Proofs.Reflection.ReturnSlot

/-!
# How `Field.get` ends

What the method answers from the state in which it is called. The unknown value that it returns
first, and the reports on the way, make no difference for what follows, so each step may be looked
at as if it came first: how the class of a static field is initialized, which access is denied, and
what there is to read in an object.
-/

namespace Dalvik

open Run StaticFields

/-- The value refers to an object of this class, as far as is known: the declared type stands for
the class if the value is not known. Neither null nor a number nor a box does so. -/
inductive Value.RefersTo : Value → TypeDescriptor → Prop
  | unknown (type : TypeDescriptor) : RefersTo (.unknown type) type
  | object (identity : Identity) (content : ObjectState) (type : TypeDescriptor) :
      RefersTo (.known (.object identity content) type) content.runtimeClass
  | string (text : String) (type : TypeDescriptor) : RefersTo (.known (.string text) type) .string
  | handle (identity : Identity) (content : ReflectedField) (type : TypeDescriptor) :
      RefersTo (.known (.handle identity content) type) .field

/-- The payload stands for itself: it is a number, or a box around another value. -/
def Payload.isInline : Payload → Bool
  | .null | .string _ | .object _ _ | .handle _ _ => false
  | _ => true

/-- How a call ends whose method ended like this: with the exception that a fault stands for, if it
stands for one. -/
def Outcome.ofResult : Except Failure Unit → Except Failure Outcome
  | .ok () => .ok .completed
  | .error (.fault fault) =>
    match fault.exceptionClass? with
    | some exception => .ok (.threw exception fault)
    | none => .error (.fault fault)
  | .error failure => .error failure

/-- A call whose method succeeded completes, and one whose method failed throws the exception that
the fault stands for. -/
theorem Outcome.ofResult_eq_ok {ended : Except Failure Unit} {outcome : Outcome}
    (h : ofResult ended = .ok outcome) :
    (ended = .ok () ∧ outcome = .completed) ∨
      ∃ cause exception, ended = .error (.fault cause) ∧ cause.exceptionClass? = some exception ∧
        outcome = .threw exception cause := by
  unfold ofResult at h
  split at h
  · cases h
    exact .inl ⟨rfl, rfl⟩
  · rename_i cause
    split at h <;> cases h
    exact .inr ⟨cause, _, rfl, by assumption, rfl⟩
  · cases h

theorem Outcome.ok_of_completed {ended : Except Failure Unit}
    (h : ofResult ended = .ok .completed) : ended = .ok () := by
  obtain ⟨hok, -⟩ | ⟨cause, exception, -, -, hthrew⟩ := ofResult_eq_ok h
  · exact hok
  · cases hthrew

theorem Execution.Similar.of_eq {e e' : Execution} (hframe : e'.frame = e.frame)
    (hlineage : e'.lineage = e.lineage) : e.Similar e' :=
  ⟨hlineage, by rw [hframe]; rfl⟩

theorem Execution.Similar.trans {e e' e'' : Execution} (h : e.Similar e') (h' : e'.Similar e'') :
    e.Similar e'' :=
  ⟨h'.lineage.trans h.lineage, by rw [h'.frame, h.frame]; rfl⟩

namespace Run

variable {α β : Type} {e : Execution}

/-- A run ends like another one, apart from what makes no difference. -/
def EndsLike (out out' : Except Failure α × Execution) : Prop :=
  out.1 = out'.1 ∧ out'.2.Similar out.2

theorem EndsLike.trans {out out' out'' : Except Failure α × Execution} (h : EndsLike out out')
    (h' : EndsLike out' out'') : EndsLike out out'' :=
  ⟨h.1.trans h'.1, h'.2.trans h.2⟩

/-- A step that only changes what makes no difference for the rest can be left out. -/
theorem Blind.bind_skip {action : Run α} {next : α → Run β} {answer : α}
    (haction : (action e).1 = .ok answer) (hsimilar : e.Similar (action e).2)
    (h : Blind (next answer)) : EndsLike ((action >>= next) e) (next answer e) := by
  rw [bind_of_ok haction]
  exact h e _ hsimilar

theorem similar_assignReturn (value : Value) (e : Execution) :
    e.Similar (assignReturn value e).2 := by
  have hlineage := Keeps.assignReturn (I := (· = e.lineage)) value e rfl
  obtain ⟨-, hframe⟩ := assignReturn_meets e.frame value e rfl
  exact ⟨hlineage, by rw [hframe]; rfl⟩

/-- There is a form for every value among the references to any object. -/
theorem returnForm_object (value : Value) : ∃ form, returnForm .object value = .ok form := by
  unfold returnForm
  split
  · exact ⟨_, rfl⟩
  · exact ⟨_, if_pos (by rfl)⟩

theorem returnAs_object_result (value : Value) (e : Execution) :
    (returnAs .object value e).1 = .ok () := by
  obtain ⟨form, hform⟩ := returnForm_object value
  unfold returnAs
  rw [hform]
  show ((reportTraced _ >>= _) e).1 = _
  rw [bind_apply, reportTraced_apply]
  rfl

end Run

namespace Machine

variable {machine : Machine} {field : DeclaredField} {handle : ReflectedField} {e : Execution}

/-! ## What makes no difference -/

/-- What is done with the receiver if it is known. -/
theorem blind_find {find : ReflectedField → Run Unit} (h : ∀ handle, Blind (find handle)) :
    Blind (do if let some handle ← receiver then find handle) := by
  refine .bind blind_receiver fun handle => ?_
  cases handle with
  | none => exact .pure _
  | some handle => exact h handle

theorem blind_getFrom (handle : ReflectedField) :
    Blind (do
      let field ← Run.ofExcept (machine.declaration handle)
      let value ← machine.readReflected field
      Run.returnAs .object value) :=
  .bind (.ofExcept _) fun _ => .bind (blind_readReflected _) fun _ =>
    .bind (.ofExcept _) fun _ => .assignReturn _

theorem blind_fieldGet : Blind machine.fieldGet :=
  .bind (.assignReturn _) fun _ => blind_find blind_getFrom

/-! ## From the call to the field -/

theorem conclude_result (signature : String) (result : Except Failure Unit) (e : Execution) :
    (conclude signature result e).1 = Outcome.ofResult result := by
  rcases result with (fault | text) | _
  · cases hclass : fault.exceptionClass? with
    | none => simp [conclude, Outcome.ofResult, Failure.fault?, hclass]; rfl
    | some exception => simp [conclude, Outcome.ofResult, Failure.fault?, hclass]; rfl
  · rfl
  · rfl

theorem lineage_conclude (signature : String) (result : Except Failure Unit) (e : Execution) :
    (conclude signature result e).2.lineage = e.lineage :=
  keeps_conclude (I := (· = e.lineage)) signature result e rfl

theorem leavesFrame_conclude (signature : String) (result : Except Failure Unit) :
    LeavesFrame (conclude signature result) := by
  unfold conclude
  split
  · exact .pure _
  · split
    · exact .bind (.report _) fun _ => .pure _
    · exact .bind (.report _) fun _ => .throw _

/-- The execution in which the method starts: the dispatch of the call was reported if it is
traced. -/
def dispatched (machine : Machine) (signature : String) (e : Execution) : Execution :=
  if machine.config.tracing.dispatch then
    { e with log := e.log ++ [.dispatching signature e.frame.depth] }
  else e

theorem similar_dispatched (machine : Machine) (signature : String) (e : Execution) :
    e.Similar (machine.dispatched signature e) := by
  unfold dispatched
  split
  · exact ⟨rfl, rfl⟩
  · exact .refl e

theorem frame_dispatched (machine : Machine) (signature : String) (e : Execution) :
    (machine.dispatched signature e).frame = e.frame := by
  unfold dispatched
  split <;> rfl

/-- A call runs the method with its signature. -/
theorem invoke_of_method {signature : String} {method : Method}
    (hmethod : machine.methods.get? signature = some method) (e : Execution) :
    machine.invoke signature e =
      conclude signature
        (machine.runWith (machine.invokeWithin (maxNesting - 1)) method
          (machine.dispatched signature e)).1
        (machine.runWith (machine.invokeWithin (maxNesting - 1)) method
          (machine.dispatched signature e)).2 := by
  obtain ⟨nesting, hnesting⟩ : ∃ nesting, maxNesting = nesting + 1 := ⟨99999, rfl⟩
  unfold invoke dispatched
  rw [hnesting, Nat.add_sub_cancel]
  unfold invokeWithin
  rw [hmethod]
  cases machine.config.tracing.dispatch <;> rfl

theorem invoke_apply (hmethod : machine.methods.get? Method.fieldGetSignature = some .fieldGet)
    (e : Execution) :
    machine.invoke Method.fieldGetSignature e =
      conclude Method.fieldGetSignature
        (machine.fieldGet (machine.dispatched Method.fieldGetSignature e)).1
        (machine.fieldGet (machine.dispatched Method.fieldGetSignature e)).2 :=
  invoke_of_method hmethod e

/-- The call ends as the method does. -/
theorem invoke_result (hmethod : machine.methods.get? Method.fieldGetSignature = some .fieldGet)
    (e : Execution) :
    (machine.invoke Method.fieldGetSignature e).1 = Outcome.ofResult (machine.fieldGet e).1 := by
  have hdispatched := similar_dispatched machine Method.fieldGetSignature e
  rw [invoke_apply hmethod, conclude_result, (blind_fieldGet e _ hdispatched).1]

/-! ## From the receiver to the value -/

theorem similar_receiver (e : Execution) : e.Similar (receiver e).2 :=
  .of_eq (leavesFrame_receiver e) (keeps_receiver (I := (· = e.lineage)) e rfl)

theorem receiver_result (h : e.Receives handle) : (receiver e).1 = .ok (some handle) := by
  obtain ⟨start, identity, type, hparameter⟩ := h
  unfold receiver
  rw [bind_of_ok (readParameter_ok hparameter)]
  rfl

/-- A method that knows its receiver ends like what it does with it. -/
theorem find_apply {find : ReflectedField → Run Unit} (hfind : ∀ handle, Blind (find handle))
    (h : e.Receives handle) (result : TypeDescriptor) :
    EndsLike
      ((do
        Run.returnUnknown result
        if let some handle ← receiver then find handle) e)
      (find handle e) := by
  refine EndsLike.trans (Blind.bind_skip (assignReturn_meets _ (.unknown result) e rfl).1
    (similar_assignReturn _ e) ?_) ?_
  · exact blind_find hfind
  · exact Blind.bind_skip (receiver_result h) (similar_receiver e) (hfind handle)

theorem fieldGet_of_undeclared {fault : Fault} (h : e.Receives handle)
    (hfield : machine.declaration handle = .error fault) :
    (machine.fieldGet e).1 = .error (.fault fault) := by
  refine (find_apply blind_getFrom h .object).1.trans ?_
  rw [hfield]
  rfl

/-- The result is put away without a failure, so only the read can fail. -/
theorem fieldGet_of_declared (h : e.Receives handle)
    (hfield : machine.declaration handle = .ok field) :
    (machine.fieldGet e).1 = (machine.readReflected field e).1.map fun _ => () := by
  refine (find_apply blind_getFrom h .object).1.trans ?_
  rw [hfield]
  show ((machine.readReflected field >>= _) e).1 = _
  rw [bind_apply]
  rcases machine.readReflected field e with ⟨failure | value, e'⟩
  · rfl
  · exact returnAs_object_result value e'

/-! ## Static fields -/

theorem initializeOwner_apply {owner : TypeDescriptor}
    (hlocal : machine.program.isLocal owner = true) (e : Execution) :
    machine.initializeOwner owner e =
      ((machine.statics.initializeOnce owner e).1.map fun _ => (),
        (machine.statics.initializeOnce owner e).2) := by
  unfold initializeOwner
  rw [if_pos hlocal, bind_apply]
  rcases machine.statics.initializeOnce owner e with ⟨_ | _, e'⟩ <;> rfl

/-- In which order is no matter for a public field. -/
theorem openStatic_of_public (hpublic : field.isPublic = true) :
    machine.openStatic field = machine.initializeOwner field.owner := by
  unfold openStatic checkAccess
  rw [if_pos hpublic]
  cases machine.config.initOrder with
  | initializeFirst =>
    funext e
    simp only [bind_apply]
    rcases machine.initializeOwner field.owner e with ⟨_ | _, e'⟩ <;> rfl
  | checkAccessFirst => rfl

/-- A public static field can be read just if its class can be initialized. -/
theorem readStatic_of_public (hlocal : machine.program.isLocal field.owner = true)
    (hfield : machine.statics.resolve field.id = .ok field) (hpublic : field.isPublic = true)
    (e : Execution) :
    ((machine.readStatic field e).1.map fun _ => ()) =
      (machine.statics.initializeOnce field.owner e).1.map fun _ => () := by
  have hmarked := marked_of_initializeOnce hlocal e
  unfold readStatic
  rw [bind_apply, openStatic_of_public hpublic, initializeOwner_apply hlocal]
  generalize machine.statics.initializeOnce field.owner e = out at hmarked ⊢
  obtain ⟨failure | answer, e'⟩ := out
  · rfl
  · -- The class is marked by now, so the read initializes nothing.
    show (machine.staticContent field e').1.map _ = _
    unfold staticContent
    rw [if_pos hlocal, read_of_marked hfield hmarked]
    rfl

/-- A static field that is not public is denied, and nothing else happens than that its class is
initialized if that comes first. -/
theorem readStatic_apply_of_denied (hdenied : field.isPublic = false) (e : Execution) :
    machine.readStatic field e =
      match machine.config.initOrder, machine.initializeOwner field.owner e with
      | .checkAccessFirst, _ => (.error (.fault (.accessDenied field.id field.visibility)), e)
      | .initializeFirst, (.error failure, e') => (.error failure, e')
      | .initializeFirst, (.ok (), e') =>
        (.error (.fault (.accessDenied field.id field.visibility)), e') := by
  have hcheck : checkAccess field = .error (.accessDenied field.id field.visibility) := by
    simp [checkAccess, hdenied]
  unfold readStatic openStatic
  cases machine.config.initOrder with
  | checkAccessFirst =>
    rw [hcheck]
    rfl
  | initializeFirst =>
    simp only [bind_apply, hcheck]
    rcases machine.initializeOwner field.owner e with ⟨_ | _, e'⟩ <;> rfl

theorem readStatic_of_denied (hlocal : machine.program.isLocal field.owner = true)
    (hdenied : field.isPublic = false) (e : Execution) :
    (machine.readStatic field e).1 =
      match machine.config.initOrder, (machine.statics.initializeOnce field.owner e).1 with
      | .initializeFirst, .error failure => .error failure
      | _, _ => .error (.fault (.accessDenied field.id field.visibility)) := by
  rw [readStatic_apply_of_denied hdenied, initializeOwner_apply hlocal]
  cases machine.config.initOrder with
  | checkAccessFirst => rfl
  | initializeFirst =>
    rcases machine.statics.initializeOnce field.owner e with ⟨_ | _, e'⟩ <;> rfl

/-! ## Instance fields -/

/-- A public field of an object is looked up in parameter 1. -/
theorem readReflected_of_instance (hinstance : field.isStatic = false)
    (hpublic : field.isPublic = true) (e : Execution) :
    (machine.readReflected field e).1 =
      ((e.frame.registers.readParameter 1).bind fun found =>
        machine.readInstance field found.2).mapError .fault := by
  unfold readReflected checkAccess
  rw [if_neg (by simp [hinstance]), if_pos hpublic]
  show ((readParameter 1 >>= _) e).1 = _
  rcases hread : e.frame.registers.readParameter 1 with fault | ⟨start, object⟩
  · rw [bind_of_error (readParameter_error hread)]
    rfl
  · rw [bind_of_ok (readParameter_ok hread)]
    cases hfound : machine.readInstance field object with
    | ok value => simp [Except.bind, hfound]; rfl
    | error fault => simp [Except.bind, hfound]; rfl

/-- Whether the method succeeds on a public field of an object is up to the object. -/
theorem fieldGet_of_object {start : Nat} {object : Value} (h : e.Receives handle)
    (hfield : machine.declaration handle = .ok field) (hinstance : field.isStatic = false)
    (hpublic : field.isPublic = true)
    (hobject : e.frame.registers.readParameter 1 = .ok (start, object)) :
    (machine.fieldGet e).1 =
      ((machine.readInstance field object).mapError Failure.fault).map fun _ => () := by
  rw [fieldGet_of_declared h hfield, readReflected_of_instance hinstance hpublic, hobject]
  rfl

theorem readReflected_of_denied (hinstance : field.isStatic = false)
    (hdenied : field.isPublic = false) (e : Execution) :
    (machine.readReflected field e).1 =
      .error (.fault (.accessDenied field.id field.visibility)) := by
  simp only [readReflected, checkAccess, hinstance, hdenied]
  rfl

theorem readInstance_of_null {object : Value} {type : TypeDescriptor}
    (h : object.unboxed = .known .null type) :
    machine.readInstance field object = .error (.invalidInstance field.id .null) := by
  simp only [readInstance, h, runtimeClass]
  rfl

theorem readInstance_of_inline {object : Value} {payload : Payload} {type : TypeDescriptor}
    (h : object.unboxed = .known payload type) (hinline : payload.isInline = true) :
    machine.readInstance field object =
      .error (.invalidInstance field.id (.incompatible type)) := by
  cases payload <;> simp [Payload.isInline] at hinline <;>
    simp only [readInstance, h, runtimeClass] <;> rfl

theorem runtimeClass_of_refersTo {object : Value} {type : TypeDescriptor}
    (h : object.RefersTo type) (id : FieldId) : runtimeClass id object = .ok type := by
  cases h <;> rfl

/-- An object that has the field is read. -/
theorem readInstance_of_member {object : Value} {type : TypeDescriptor}
    (h : object.unboxed.RefersTo type) (hclass : machine.isInstanceOf type field.owner = true) :
    machine.readInstance field object = .ok (machine.contentOf field object.unboxed) := by
  simp only [readInstance, runtimeClass_of_refersTo h]
  exact if_pos hclass

theorem readInstance_of_stranger {object : Value} {type : TypeDescriptor}
    (h : object.unboxed.RefersTo type) (hclass : machine.isInstanceOf type field.owner = false) :
    machine.readInstance field object =
      .error (.invalidInstance field.id (.incompatible type)) := by
  simp only [readInstance, runtimeClass_of_refersTo h]
  exact if_neg (ne_true_of_eq_false hclass)

end Machine

/-- A value is null, stands for itself, or refers to an object. -/
theorem Value.null_or_inline_or_refersTo (value : Value) :
    (∃ type, value = .known .null type) ∨
    (∃ payload type, value = .known payload type ∧ payload.isInline = true) ∨
    ∃ type, value.RefersTo type := by
  rcases value with ⟨payload, type⟩ | type
  · cases payload with
    | null => exact .inl ⟨type, rfl⟩
    | object identity content => exact .inr (.inr ⟨_, .object identity content type⟩)
    | string text => exact .inr (.inr ⟨_, .string text type⟩)
    | handle identity content => exact .inr (.inr ⟨_, .handle identity content type⟩)
    | _ => exact .inr (.inl ⟨_, type, rfl, rfl⟩)
  · exact .inr (.inr ⟨type, .unknown type⟩)

end Dalvik
