import Dalvik.Proofs.Reflection.Failures
import Dalvik.Proofs.Reflection.UnknownInstances
import Dalvik.Proofs.Registers
import Dalvik.Proofs.Values.Boxes

/-!
# Boxed parameters

A read through reflection returns most values in a box, and what it returned may be handed to the
next call. The object in parameter 1 is taken out of its box, so a box around it makes no
difference. The field in parameter 0 is not: a box around it makes every call fail.
-/

namespace Dalvik

open Run StaticFields

/-- The request does not read this parameter. -/
def StaticRequest.Ignores (index : Nat) : StaticRequest → Prop
  | .parameter other => other ≠ index
  | _ => True

/-- In the second execution, the value of a parameter is boxed. Otherwise the methods on fields and
the initializers see the same in both. -/
structure Execution.Boxes (index : Nat) (value : Value) (e e' : Execution) : Prop where
  lineage : e'.lineage = e.lineage
  callPath : e'.frame.callPath = e.frame.callPath
  returnValue : e'.frame.registers.returnValue = e.frame.registers.returnValue
  others : ∀ other, other ≠ index →
    e'.frame.registers.readParameter other = e.frame.registers.readParameter other
  plain : ∃ start, e.frame.registers.readParameter index = .ok (start, value)
  boxed : ∃ start, e'.frame.registers.readParameter index = .ok (start, value.boxed)

/-- Two calls end in the same way, with the same result and the same static state. -/
def Run.SameEffect {α : Type} (out out' : Except Failure α × Execution) : Prop :=
  out'.1 = out.1 ∧ out'.2.frame.registers.returnValue = out.2.frame.registers.returnValue ∧
    out'.2.lineage = out.2.lineage

/-- A parameter was not what the method is called on. -/
def Failure.isRejection : Failure → Bool
  | .fault (.unexpectedParameter _ _ _) => true
  | _ => false

variable {index : Nat} {value : Value}

namespace Execution.Boxes

variable {e e' now now' : Execution}

/-- The value of a parameter is put into a box. -/
theorem of_assign {start : Nat} {registers : Registers} (hmade : e.frame.registers.Made)
    (hread : e.frame.registers.readParameter index = .ok (start, value))
    (hassign : e.frame.registers.assignParameter index value.boxed = .ok registers) :
    e.Boxes index value (e.withRegisters registers) := by
  obtain ⟨hself, hothers⟩ := hmade.readParameter_assignParameter hread hassign
  exact
    { lineage := rfl
      callPath := rfl
      returnValue := Registers.returnValue_of_assignParameter hassign
      others := hothers
      plain := ⟨start, hread⟩
      boxed := ⟨start, hself⟩ }

/-- The results are no parameters. -/
theorem returning (h : e.Boxes index value e') (result : Option Value)
    (hlineage : now'.lineage = now.lineage) (hframe : now.frame = e.frame.returning result)
    (hframe' : now'.frame = e'.frame.returning result) : now.Boxes index value now' := by
  constructor
  · exact hlineage
  · rw [hframe, hframe']
    exact h.callPath
  · rw [hframe, hframe']
    rfl
  · rw [hframe, hframe']
    exact h.others
  · rw [hframe]
    exact h.plain
  · rw [hframe']
    exact h.boxed

/-- Whether an execution boxes a parameter of another one is up to their lineages and frames. -/
theorem congr (h : e.Boxes index value e') (hlineage : now'.lineage = now.lineage)
    (hframe : now.frame = e.frame) (hframe' : now'.frame = e'.frame) :
    now.Boxes index value now' := by
  apply h.returning e.frame.registers.returnValue hlineage hframe
  rw [hframe', ← h.returnValue]
  rfl

/-- Code that leaves the frame and the lineage as they are. -/
theorem leaves {α : Type} {action : Run α} (h : e.Boxes index value e')
    (hframe : LeavesFrame action) (hkeeps : ∀ lineage, Keeps (· = lineage) action) :
    (action e).2.Boxes index value (action e').2 := by
  apply h.congr _ (hframe e) (hframe e')
  rw [hkeeps e.lineage e rfl, hkeeps e'.lineage e' rfl, h.lineage]

end Execution.Boxes

/-! ## Runs on both sides -/

namespace Run

variable {α β : Type}

theorem agrees_mark (type : TypeDescriptor) (step : StaticStep) :
    Agrees (Execution.Boxes index value) (mark type step) := by
  intro e e' h
  rw [mark_apply, mark_apply, h.lineage]
  split
  · exact ⟨rfl, h⟩
  · exact ⟨rfl, h.congr rfl rfl rfl⟩

theorem agrees_depth_bind {next : Nat → Run β}
    (hnext : ∀ depth, Agrees (Execution.Boxes index value) (next depth)) :
    Agrees (Execution.Boxes index value) (frame >>= fun frame => next frame.depth) := by
  intro e e' h
  have hdepth : e'.frame.depth = e.frame.depth := congrArg List.length h.callPath
  show (next e'.frame.depth e').1 = (next e.frame.depth e).1 ∧
    (next e.frame.depth e).2.Boxes index value (next e'.frame.depth e').2
  rw [hdepth]
  exact hnext e.frame.depth e e' h

/-- A parameter that is not boxed is the same on both sides. -/
theorem agrees_readParameter {parameter : Nat} (hother : parameter ≠ index) :
    Agrees (Execution.Boxes index value) (readParameter parameter) := by
  intro e e' h
  refine ⟨?_, h.leaves (.readParameter parameter) fun _ => .readParameter parameter⟩
  rw [readParameter_result, readParameter_result, h.others parameter hother]

/-- Whichever parameter is read, it makes no difference if the box makes none for what follows. -/
theorem agrees_readParameter_bind (parameter : Nat) {next : Value → Run β}
    (hnext : ∀ found, Agrees (Execution.Boxes index value) (next found))
    (hsame : next value.boxed = next value) :
    Agrees (Execution.Boxes index value) (readParameter parameter >>= next) := by
  by_cases hother : parameter = index
  -- The answers differ by the box, and what follows does not see it.
  · subst hother
    intro e e' h
    obtain ⟨start, hplain⟩ := h.plain
    obtain ⟨start', hboxed⟩ := h.boxed
    rw [bind_of_ok (readParameter_ok hplain), bind_of_ok (readParameter_ok hboxed), hsame]
    apply hnext value
    exact h.leaves (.readParameter parameter) fun _ => .readParameter parameter
  · exact .bind (agrees_readParameter hother) hnext

theorem agrees_assignReturn (result : Value) :
    Agrees (Execution.Boxes index value) (assignReturn result) := by
  intro e e' h
  obtain ⟨hok, hframe⟩ := assignReturn_meets e.frame result e rfl
  obtain ⟨hok', hframe'⟩ := assignReturn_meets e'.frame result e' rfl
  refine ⟨hok'.trans hok.symm, h.returning (some result) ?_ hframe hframe'⟩
  have hkeeps (e : Execution) := Keeps.assignReturn (I := (· = e.lineage)) result e rfl
  rw [hkeeps e, hkeeps e', h.lineage]

theorem agrees_returnAs (type : TypeDescriptor) (result : Value) :
    Agrees (Execution.Boxes index value) (returnAs type result) :=
  .bind (.ofExcept _) fun form => agrees_assignReturn form

end Run

theorem StaticFields.compositional_boxes (index : Nat) (value : Value) :
    Compositional (StaticRequest.Ignores index)
      fun action => Agrees (Execution.Boxes index value) action where
  pure := .pure
  throw := .throw
  bind := .bind
  attempt := .attempt
  depth_bind := agrees_depth_bind
  lineage := fun _ _ h => ⟨congrArg Except.ok h.lineage, h⟩
  modifyLineage f _ := fun _ _ h => ⟨rfl, h.congr (congrArg f h.lineage) rfl rfl⟩
  mark := agrees_mark
  report _ _ := fun _ _ h => ⟨rfl, h.congr h.lineage rfl rfl⟩
  note _ := fun _ _ h => ⟨rfl, h.congr h.lineage rfl rfl⟩
  readParameter _ hother := agrees_readParameter hother
  assignReturn result _ := agrees_assignReturn result

namespace Machine

variable {machine : Machine} {method : Method} {result : TypeDescriptor} {handle : ReflectedField}

/-! ## A boxed object -/

/-- The object is taken out of its box. -/
theorem readInstance_boxed (hknown : value.isKnown = true) (hplain : value.isBoxed = false)
    (field : DeclaredField) :
    machine.readInstance field value.boxed = machine.readInstance field value := by
  rw [Value.boxed_of_known hknown]
  unfold readInstance
  rw [Value.unboxed_of_not_boxed hplain]
  rfl

theorem agrees_readReflected (hasks : machine.statics.InitializersAsk (StaticRequest.Ignores index))
    (hknown : value.isKnown = true) (hplain : value.isBoxed = false) (field : DeclaredField) :
    Agrees (Execution.Boxes index value) (machine.readReflected field) := by
  unfold readReflected
  split
  · exact readStatic_of (compositional_boxes index value) hasks field
  · refine .bind (.ofExcept _) fun _ => ?_
    apply agrees_readParameter_bind
    · intro found
      exact .ofExcept _
    · rw [readInstance_boxed hknown hplain]

theorem agrees_onField (hasks : machine.statics.InitializersAsk (StaticRequest.Ignores index))
    (hknown : value.isKnown = true) (hplain : value.isBoxed = false) (method : Method)
    (handle : ReflectedField) :
    Agrees (Execution.Boxes index value) (machine.onField method handle) := by
  cases method with
  | fieldGet =>
    refine .bind (.ofExcept _) fun field => ?_
    refine .bind (agrees_readReflected hasks hknown hplain field) fun found => ?_
    exact agrees_returnAs _ _
  | fieldGetName => exact agrees_returnAs _ _
  | fieldGetModifiers => exact .bind (.ofExcept _) fun field => agrees_returnAs _ _
  | scripted => exact .pure ()

/-- The receiver is another parameter. -/
theorem agrees_receiver (hindex : index ≠ 0) : Agrees (Execution.Boxes index value) receiver := by
  refine .bind (agrees_readParameter (Ne.symm hindex)) fun found => ?_
  split
  · exact .pure _
  · exact .pure _
  · exact .throw _

theorem agrees_runWith (hresult : method.resultType? = some result) (hindex : index ≠ 0)
    (hasks : machine.statics.InitializersAsk (StaticRequest.Ignores index))
    (hknown : value.isKnown = true) (hplain : value.isBoxed = false)
    (invoke : String → Run Outcome) :
    Agrees (Execution.Boxes index value) (machine.runWith invoke method) := by
  rw [runWith_eq hresult]
  refine .bind (agrees_assignReturn _) fun _ => .bind (agrees_receiver hindex) fun handle => ?_
  cases handle with
  | none => exact .pure _
  | some handle => exact agrees_onField hasks hknown hplain method handle

/-! ## A boxed receiver -/

theorem receiver_of_boxed {e : Execution} {start : Nat} {content : Value} {type : TypeDescriptor}
    (h : e.frame.registers.readParameter 0 = .ok (start, .known (.boxed content) type)) :
    (receiver e).1 = .error (.fault (.unexpectedParameter 0 "field handle" type)) := by
  unfold receiver
  rw [bind_of_ok (readParameter_ok h)]
  rfl

/-- The call fails at its receiver, when its result is still the one that it starts with. -/
theorem runWith_of_boxed (machine : Machine) (hresult : method.resultType? = some result)
    {e : Execution} {start : Nat} {content : Value} {type : TypeDescriptor}
    (h : e.frame.registers.readParameter 0 = .ok (start, .known (.boxed content) type))
    (invoke : String → Run Outcome) :
    (machine.runWith invoke method e).1 =
        .error (.fault (.unexpectedParameter 0 "field handle" type)) ∧
      (machine.runWith invoke method e).2.frame = e.frame.returning (some (.unknown result)) ∧
      (machine.runWith invoke method e).2.lineage = e.lineage := by
  obtain ⟨hseed, hframe⟩ := assignReturn_meets e.frame (.unknown result) e rfl
  have hkeeps := Keeps.assignReturn (I := (· = e.lineage)) (.unknown result) e rfl
  set seeded := (assignReturn (.unknown result) e).2 with hseeded
  have hparameter : seeded.frame.registers.readParameter 0 =
      .ok (start, .known (.boxed content) type) := by
    rw [hframe]
    exact h
  rw [runWith_eq hresult, returnUnknown, bind_of_ok hseed,
    bind_of_error (receiver_of_boxed hparameter)]
  refine ⟨rfl, ?_, ?_⟩
  · exact (leavesFrame_receiver seeded).trans hframe
  · exact (keeps_receiver (I := (· = seeded.lineage)) seeded rfl).trans hkeeps

/-! ## A receiver that is not boxed -/

theorem failsWith_returnAs (type : TypeDescriptor) (value : Value) :
    FailsWith (·.isRejection = false) (returnAs type value) := by
  refine .bind (.ofExcept fun fault hform => ?_) fun form => ?_
  · unfold returnForm at hform
    split at hform
    · cases hform
    · split at hform <;> cases hform
      rfl
  · apply FailsWith.of_ok
    intro e
    exact ⟨(), (assignReturn_meets e.frame form e rfl).1⟩

theorem failsWith_declaration (handle : ReflectedField) :
    FailsWith (·.isRejection = false) (Run.ofExcept (machine.declaration handle)) := by
  apply FailsWith.ofExcept
  intro fault hfault
  rw [declaration_error hfault]
  rfl

/-- Whatever a read of a field fails with, it is not its receiver. -/
theorem isRejection_of_readFails {field : DeclaredField} {failure : Failure}
    (h : field.ReadFails failure) : failure.isRejection = false := by
  cases h with
  | noObject _ hunread => cases hunread <;> rfl
  | _ => rfl

theorem failsWith_onField (method : Method) (handle : ReflectedField) :
    FailsWith (·.isRejection = false) (machine.onField method handle) := by
  cases method with
  | fieldGet =>
    refine .bind (failsWith_declaration handle) fun field => ?_
    refine .bind ?_ fun found => failsWith_returnAs _ _
    exact (failsWith_readReflected field).mono fun _ => isRejection_of_readFails
  | fieldGetName => exact failsWith_returnAs _ _
  | fieldGetModifiers =>
    exact .bind (failsWith_declaration handle) fun field => failsWith_returnAs _ _
  | scripted => exact .pure ()

theorem blind_onField (machine : Machine) (method : Method) (handle : ReflectedField) :
    Blind (machine.onField method handle) := by
  cases method with
  | fieldGet => exact blind_getFrom handle
  | fieldGetName => exact .bind (.ofExcept _) fun _ => .assignReturn _
  | fieldGetModifiers =>
    exact .bind (.ofExcept _) fun _ => .bind (.ofExcept _) fun _ => .assignReturn _
  | scripted => exact .pure ()

/-- A call on a field that is not boxed fails for other reasons, if it fails. -/
theorem not_isRejection_runWith (hresult : method.resultType? = some result) {e : Execution}
    (hreceives : e.Receives handle) (invoke : String → Run Outcome) {failure : Failure}
    (hfailure : (machine.runWith invoke method e).1 = .error failure) :
    failure.isRejection = false := by
  have hfield := (find_apply (machine.blind_onField method) hreceives result).1
  rw [runWith_eq hresult] at hfailure
  exact failsWith_onField method handle e failure (hfield.symm.trans hfailure)

/-! ## Calls -/

theorem ofResult_eq_error {ended : Except Failure Unit} {failure : Failure}
    (h : Outcome.ofResult ended = .error failure) : ended = .error failure := by
  unfold Outcome.ofResult at h
  split at h
  · cases h
  · split at h <;> cases h
    rfl
  · cases h
    rfl

/-- The call ends as its method does, which starts where the dispatch was reported. -/
theorem invoke_effect {signature : String} (hmethod : machine.methods.get? signature = some method)
    (e : Execution) :
    let ended := machine.runWith (machine.invokeWithin (maxNesting - 1)) method
      (machine.dispatched signature e)
    (machine.invoke signature e).1 = Outcome.ofResult ended.1 ∧
      (machine.invoke signature e).2.frame = ended.2.frame ∧
      (machine.invoke signature e).2.lineage = ended.2.lineage := by
  rw [invoke_of_method hmethod]
  exact ⟨conclude_result _ _ _, leavesFrame_conclude _ _ _, lineage_conclude _ _ _⟩

/-- The report of the dispatch does not change the receiver. -/
theorem receives_dispatched {e : Execution} (h : e.Receives handle) (signature : String) :
    (machine.dispatched signature e).Receives handle := by
  unfold Execution.Receives
  rw [frame_dispatched]
  exact h

/-- A box around a parameter other than the receiver makes no difference. -/
theorem invoke_sameEffect {signature : String}
    (hmethod : machine.methods.get? signature = some method)
    (hresult : method.resultType? = some result) (hindex : index ≠ 0)
    (hasks : machine.statics.InitializersAsk (StaticRequest.Ignores index))
    (hknown : value.isKnown = true) (hplain : value.isBoxed = false) {e e' : Execution}
    (h : e.Boxes index value e') :
    SameEffect (machine.invoke signature e) (machine.invoke signature e') := by
  obtain ⟨houtcome, hframe, hlineage⟩ := invoke_effect hmethod e
  obtain ⟨houtcome', hframe', hlineage'⟩ := invoke_effect hmethod e'
  have hdispatched : (machine.dispatched signature e).Boxes index value
      (machine.dispatched signature e') := by
    apply h.congr _ (frame_dispatched machine signature e) (frame_dispatched machine signature e')
    rw [(similar_dispatched machine signature e).lineage,
      (similar_dispatched machine signature e').lineage, h.lineage]
  obtain ⟨hsame, hafter⟩ := agrees_runWith hresult hindex hasks hknown hplain
    (machine.invokeWithin (maxNesting - 1)) _ _ hdispatched
  refine ⟨?_, ?_, ?_⟩
  · rw [houtcome, houtcome', hsame]
  · rw [hframe, hframe', hafter.returnValue]
  · rw [hlineage, hlineage', hafter.lineage]

/-- A box around the receiver makes the call fail before anything else happens. -/
theorem invoke_of_boxed {signature : String}
    (hmethod : machine.methods.get? signature = some method)
    (hresult : method.resultType? = some result) {e : Execution} {start : Nat} {content : Value}
    (h : e.frame.registers.readParameter 0 = .ok (start, .known (.boxed content) .object)) :
    (machine.invoke signature e).1 =
        .error (.fault (.unexpectedParameter 0 "field handle" .object)) ∧
      (machine.invoke signature e).2.frame = e.frame.returning (some (.unknown result)) ∧
      (machine.invoke signature e).2.lineage = e.lineage := by
  obtain ⟨houtcome, hframe, hlineage⟩ := invoke_effect hmethod e
  have hdispatched := frame_dispatched machine signature e
  have hparameter : (machine.dispatched signature e).frame.registers.readParameter 0 =
      .ok (start, .known (.boxed content) .object) := by
    rw [hdispatched]
    exact h
  obtain ⟨hfails, hreturns, hkeeps⟩ := runWith_of_boxed machine hresult hparameter
    (machine.invokeWithin (maxNesting - 1))
  refine ⟨?_, ?_, ?_⟩
  · rw [houtcome, hfails]
    rfl
  · rw [hframe, hreturns, hdispatched]
  · rw [hlineage, hkeeps, (similar_dispatched machine signature e).lineage]

/-- A call on a field that is not boxed does not fail as one on a boxed field does. -/
theorem invoke_ne_rejection {signature : String}
    (hmethod : machine.methods.get? signature = some method)
    (hresult : method.resultType? = some result) {e : Execution} (hreceives : e.Receives handle)
    {failure : Failure} (hrejection : failure.isRejection = true) :
    (machine.invoke signature e).1 ≠ .error failure := by
  intro h
  rw [(invoke_effect hmethod e).1] at h
  have hother := not_isRejection_runWith hresult (receives_dispatched hreceives signature) _
    (ofResult_eq_error h)
  simp [hrejection] at hother

/-- A method on fields is called on a field that is known, and the value of one of its parameters is
put into a box. Whatever the machine is, as long as its initializers do not read that parameter, the
call has the same effect just if the parameter is not the receiver. A call whose receiver is boxed
always fails, leaves an unknown result and does not touch the static fields, and never does a call
fail in that way whose receiver is not boxed. -/
theorem box_transparent_iff_not_receiver (machine : Machine) {signature : String}
    (hmethod : machine.methods.get? signature = some method)
    (hresult : method.resultType? = some result)
    (hasks : machine.statics.InitializersAsk (StaticRequest.Ignores index)) {e : Execution}
    (hmade : e.frame.registers.Made) (hreceives : e.Receives handle) {start : Nat}
    (hread : e.frame.registers.readParameter index = .ok (start, value))
    (hknown : value.isKnown = true) (hplain : value.isBoxed = false) {registers : Registers}
    (hboxed : e.frame.registers.assignParameter index value.boxed = .ok registers) :
    (SameEffect (machine.invoke signature e) (machine.invoke signature (e.withRegisters registers))
      ↔ index ≠ 0) ∧
    (index = 0 →
      (machine.invoke signature (e.withRegisters registers)).1 =
          .error (.fault (.unexpectedParameter 0 "field handle" .object)) ∧
        (machine.invoke signature (e.withRegisters registers)).2.frame.registers.returnValue =
          some (.unknown result) ∧
        (machine.invoke signature (e.withRegisters registers)).2.lineage = e.lineage ∧
        (machine.invoke signature e).1 ≠
          .error (.fault (.unexpectedParameter 0 "field handle" .object))) := by
  have hboxes := Execution.Boxes.of_assign hmade hread hboxed
  have hplainCall : (machine.invoke signature e).1 ≠
      .error (.fault (.unexpectedParameter 0 "field handle" .object)) :=
    invoke_ne_rejection hmethod hresult hreceives rfl
  by_cases hindex : index = 0
  -- The receiver is boxed, so only the second call is rejected, and the outcomes differ.
  · subst hindex
    obtain ⟨start', hself⟩ := hboxes.boxed
    rw [Value.boxed_of_known hknown] at hself
    obtain ⟨houtcome, hframe, hlineage⟩ := invoke_of_boxed hmethod hresult hself
    refine ⟨?_, fun _ => ⟨houtcome, ?_, hlineage, hplainCall⟩⟩
    · constructor
      · intro h
        exact absurd (h.1.symm.trans houtcome) hplainCall
      · intro h
        exact absurd rfl h
    · rw [hframe]
      rfl
  · refine ⟨?_, fun h => absurd h hindex⟩
    constructor
    · intro _
      exact hindex
    · intro _
      exact invoke_sameEffect hmethod hresult hindex hasks hknown hplain hboxes

end Machine

/-- The field `size` of an object of `derived`. -/
def Sample.passingSize : Execution :=
  .passing ⟨.localClass, size⟩ (.object ⟨0, 1⟩ (.ofClass derived))

namespace Machine

/-- An object is boxed before it is read. -/
theorem box_transparent_iff_not_receiver_object :
    ∃ registers, Sample.passingSize.frame.registers.assignParameter 1
        (Value.object ⟨0, 1⟩ (.ofClass Sample.derived)).boxed = .ok registers ∧
      SameEffect
        ((Machine.ofProgram Sample.sized).invoke Method.fieldGetSignature Sample.passingSize)
        ((Machine.ofProgram Sample.sized).invoke Method.fieldGetSignature
          (Sample.passingSize.withRegisters registers)) := by
  refine ⟨_, rfl, ?_⟩
  have hreceives : Sample.passingSize.Receives ⟨.localClass, Sample.size⟩ :=
    ⟨0, ⟨0, 0⟩, .field, rfl⟩
  exact (box_transparent_iff_not_receiver (Machine.ofProgram Sample.sized) rfl rfl nofun
    (.setTraced _ (.withArguments _)) hreceives rfl rfl rfl rfl).1.2 Nat.one_ne_zero

/-- The name of a field is asked for with the field as it is, and as a read of a static field that
holds it returns it. -/
theorem boxed_receiver_rejected :
    Run.returnForm .object (.handle ⟨0, 0⟩ ⟨.localClass, Sample.size⟩) =
      .ok (Value.handle ⟨0, 0⟩ ⟨.localClass, Sample.size⟩).boxed ∧
    ∃ registers, Sample.passingSize.frame.registers.assignParameter 0
        (Value.handle ⟨0, 0⟩ ⟨.localClass, Sample.size⟩).boxed = .ok registers ∧
      ((Machine.ofProgram Sample.sized).invoke Method.fieldGetNameSignature
        Sample.passingSize).1 = .ok .completed ∧
      ((Machine.ofProgram Sample.sized).invoke Method.fieldGetNameSignature
        (Sample.passingSize.withRegisters registers)).1 =
          .error (.fault (.unexpectedParameter 0 "field handle" .object)) :=
  ⟨rfl, _, rfl, rfl, rfl⟩

end Machine

end Dalvik
