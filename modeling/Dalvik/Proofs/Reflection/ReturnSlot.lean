import Dalvik.Proofs.Initialization.Actions
import Dalvik.Proofs.Initialization.Effects
import Dalvik.Proofs.Initialization.Worlds

/-!
# The result of the methods on fields

Each of these methods first makes its result an unknown value, and then either puts what it found
out in its place, in a form of the same type, or fails and leaves it. Of the frame nothing else
changes, whatever the method meets on its way: a receiver that is missing or no field, a field that
does not exist or may not be read, an initializer that fails, an object that does not have the
field.
-/

namespace Dalvik

open Run StaticFields

/-- The type of the values that a method of the library returns. -/
def Method.resultType? : Method → Option TypeDescriptor
  | fieldGet => some .object
  | fieldGetName => some .string
  | fieldGetModifiers => some .int
  | scripted _ _ => none

/-- The method was called on this field. -/
def Execution.Receives (e : Execution) (handle : ReflectedField) : Prop :=
  ∃ start identity type,
    e.frame.registers.readParameter 0 = .ok (start, .known (.handle identity handle) type)

/-- What the method was called on is not known. -/
def Execution.ReceivesUnknown (e : Execution) : Prop :=
  ∃ start type, e.frame.registers.readParameter 0 = .ok (start, .unknown type)

/-- What a method that is called in `e` finds out about a field: the content that it has there, its
name, or its access flags. The first and the last need the field to exist. -/
inductive Machine.Finds (machine : Machine) (e : Execution) (handle : ReflectedField) :
    Method → Value → Prop
  | content {field : DeclaredField} {value : Value}
      (hfield : machine.declaration handle = .ok field)
      (hvalue : (machine.readReflected field e).1 = .ok value) :
      Finds machine e handle .fieldGet value
  | name : Finds machine e handle .fieldGetName (.string handle.field.name)
  | modifiers {field : DeclaredField} (hfield : machine.declaration handle = .ok field) :
      Finds machine e handle .fieldGetModifiers (.int field.flags.modifiers.bits.toInt32)

/-- What a method of result type `result` that is called in `e` returns if it succeeds: what it
finds, in the form that its result type asks for, or nothing that is known if the field is not. -/
inductive Machine.Commits (machine : Machine) (e : Execution) (method : Method)
    (result : TypeDescriptor) : Value → Prop
  | unknown (h : e.ReceivesUnknown) : Commits machine e method result (.unknown result)
  | found {handle : ReflectedField} {value form : Value} (h : e.Receives handle)
      (hfinds : machine.Finds e handle method value)
      (hform : Run.returnForm result value = .ok form) : Commits machine e method result form

/-- How a method of result type `result` that was called in `frame` leaves it: nothing but the
result has changed, which is unknown if the method failed and what it commits if not. -/
def Frame.Answers (frame : Frame) (result : TypeDescriptor) (commits : Value → Prop)
    (answer : Except Failure Unit) (e : Execution) : Prop :=
  ∃ value, e.frame = frame.returning (some value) ∧
    (∀ failure, answer = .error failure → value = .unknown result) ∧
    (answer = .ok () → commits value)

/-- The state of a call that started in `e` and has made its result unknown, and nothing else. -/
structure Execution.Seeded (e : Execution) (result : TypeDescriptor) (now : Execution) : Prop where
  lineage : now.lineage = e.lineage
  frame : now.frame = e.frame.returning (some (.unknown result))

variable {frame : Frame} {result : TypeDescriptor} {commits commits' : Value → Prop}
  {e now : Execution}

/-- As long as the result is unknown, the method may fail. -/
theorem Frame.Answers.of_error {failure : Failure}
    (h : e.frame = frame.returning (some (.unknown result))) :
    frame.Answers result commits (.error failure) e :=
  ⟨.unknown result, h, fun _ _ => rfl, nofun⟩

theorem Frame.Answers.mono {answer : Except Failure Unit}
    (h : frame.Answers result commits answer e) (himp : ∀ value, commits value → commits' value) :
    frame.Answers result commits' answer e := by
  obtain ⟨value, hframe, hfails, hsucceeds⟩ := h
  exact ⟨value, hframe, hfails, fun hok => himp value (hsucceeds hok)⟩

theorem Execution.Seeded.similar (h : e.Seeded result now) : e.Similar now :=
  ⟨h.lineage, by rw [h.frame]; rfl⟩

namespace Run

theorem assignReturn_meets (frame : Frame) (value : Value) :
    Meets (·.frame = frame) (assignReturn value) fun answer e =>
      answer = .ok () ∧ e.frame = frame.returning (some value) := by
  rintro e rfl
  exact assignReturn_apply value e

theorem type_of_returnForm {value form : Value} (h : returnForm result value = .ok form) :
    form.type = result := by
  unfold returnForm at h
  split at h
  · cases h
    assumption
  · split at h
    · rename_i hobject
      cases h
      have hresult : result = .object := by simpa [TypeDescriptor.isObject] using hobject
      cases value <;> exact hresult.symm
    · cases h

/-- What replaces the unknown result is a form of the value; if there is none, nothing does. -/
theorem returnAs_meets (frame : Frame) (result : TypeDescriptor) (value : Value) :
    Meets (·.frame = frame.returning (some (.unknown result))) (returnAs result value)
      (frame.Answers result fun form => returnForm result value = .ok form) := by
  refine .ofExcept_bind (fun form hform => ?_) fun fault e _ he => .of_error he
  refine (assignReturn_meets _ form).consequence (fun _ h => h) fun answer e he => ?_
  obtain ⟨rfl, hframe⟩ := he
  exact ⟨form, hframe, nofun, fun _ => hform⟩

/-- A method starts by making its result unknown. -/
theorem returnUnknown_meets (e : Execution) (result : TypeDescriptor) :
    Meets (· = e) (returnUnknown result) fun _ now => e.Seeded result now := by
  rintro e rfl
  exact ⟨Keeps.returnUnknown (I := (· = e.lineage)) result e rfl,
    (assignReturn_meets e.frame (.unknown result) e rfl).2⟩

end Run

namespace Machine

variable {machine : Machine} {method : Method} {handle : ReflectedField} {value : Value}

theorem type_of_commits (h : machine.Commits e method result value) : value.type = result := by
  cases h with
  | unknown => rfl
  | found _ _ hform => exact type_of_returnForm hform

/-! ## Static fields -/

section Composition

variable {allowed : StaticRequest → Prop} {P : {α : Type} → Run α → Prop}

theorem initializeOwner_of (h : Compositional allowed P)
    (hasks : machine.statics.InitializersAsk allowed) (owner : TypeDescriptor) :
    P (machine.initializeOwner owner) := by
  unfold initializeOwner
  split
  · exact h.bind (initializeWithin_of h hasks _ owner) fun _ => h.pure _
  · refine h.bind (h.mark _ _) fun marked => ?_
    cases marked with
    | true => exact h.depth_bind fun _ => h.report _ (by nofun)
    | false => exact h.pure _

theorem readStatic_of (h : Compositional allowed P)
    (hasks : machine.statics.InitializersAsk allowed) (field : DeclaredField) :
    P (machine.readStatic field) := by
  refine h.bind ?_ fun _ => ?_
  · unfold openStatic
    split
    · exact h.bind (initializeOwner_of h hasks _) fun _ => h.ofExcept _
    · exact h.bind (h.ofExcept _) fun _ => initializeOwner_of h hasks _
  · unfold staticContent
    split
    · exact readWith_of h (initializeWithin_of h hasks _) _
    · exact h.pure _

end Composition

/-! ## What leaves the frame as it is -/

theorem leavesFrame_receiver : LeavesFrame receiver := by
  refine .bind (.readParameter 0) fun value => ?_
  split
  · exact .pure _
  · exact .pure _
  · exact .throw _

theorem leavesFrame_readStatic (h : machine.statics.SparesRegisters) (field : DeclaredField) :
    LeavesFrame (machine.readStatic field) :=
  readStatic_of compositional_leavesFrame h field

theorem leavesFrame_readReflected (h : machine.statics.SparesRegisters) (field : DeclaredField) :
    LeavesFrame (machine.readReflected field) :=
  .ite (leavesFrame_readStatic h field)
    (.bind (.ofExcept _) fun _ => .bind (.readParameter 1) fun _ => .ofExcept _)

/-! ## What makes no difference -/

theorem blind_receiver : Blind receiver := by
  refine .bind (.readParameter 0) fun value => ?_
  split
  · exact .pure _
  · exact .pure _
  · exact .throw _

theorem blind_readStatic (field : DeclaredField) : Blind (machine.readStatic field) :=
  readStatic_of compositional_blind (initializersAsk_true _) field

theorem blind_readReflected (field : DeclaredField) : Blind (machine.readReflected field) := by
  unfold readReflected
  split
  · exact blind_readStatic field
  · exact .bind (.ofExcept _) fun _ => .bind (.readParameter 1) fun _ => .ofExcept _

/-! ## Seed, then commit -/

/-- What a method does with the field on which it was called. -/
def onField (machine : Machine) : Method → ReflectedField → Run Unit
  | .fieldGet, handle => do
    let field ← Run.ofExcept (machine.declaration handle)
    let value ← machine.readReflected field
    Run.returnAs .object value
  | .fieldGetName, handle => Run.returnAs .string (.string handle.field.name)
  | .fieldGetModifiers, handle => do
    let field ← Run.ofExcept (machine.declaration handle)
    Run.returnAs .int (.int field.flags.modifiers.bits.toInt32)
  | .scripted _ _, _ => pure ()

/-- The methods on fields differ only in what they do with the field. -/
theorem runWith_eq (hresult : method.resultType? = some result) (invoke : String → Run Outcome) :
    machine.runWith invoke method = (do
      Run.returnUnknown result
      if let some handle ← receiver then machine.onField method handle) := by
  cases method <;> cases hresult <;> rfl

/-- The receiver is told by the first parameter. -/
theorem receives_of_receiver {handle? : Option ReflectedField} (h : (receiver e).1 = .ok handle?) :
    handle?.elim e.ReceivesUnknown e.Receives := by
  unfold receiver at h
  cases hparameter : e.frame.registers.readParameter 0 with
  | error fault =>
    rw [bind_of_error (readParameter_error hparameter)] at h
    cases h
  | ok found =>
    obtain ⟨start, value⟩ := found
    rw [bind_of_ok (readParameter_ok hparameter)] at h
    rcases value with ⟨payload, type⟩ | type
    · cases payload <;> cases h
      exact ⟨start, _, type, hparameter⟩
    · cases h
      exact ⟨start, type, hparameter⟩

/-- That the result is unknown makes no difference for who the receiver is. -/
theorem receiver_meets (e : Execution) (result : TypeDescriptor) :
    Meets (e.Seeded result) receiver fun handle? now =>
      handle? = (receiver e).1 ∧ e.Seeded result now := by
  intro now h
  refine ⟨(blind_receiver e now h.similar).1, ?_, ?_⟩
  · exact (keeps_receiver (I := (· = now.lineage)) now rfl).trans h.lineage
  · exact (leavesFrame_receiver now).trans h.frame

/-- Nor does it for what is read. -/
theorem readReflected_meets (hspares : machine.statics.SparesRegisters) (e : Execution)
    (result : TypeDescriptor) (field : DeclaredField) :
    Meets (e.Seeded result) (machine.readReflected field) fun found now =>
      found = (machine.readReflected field e).1 ∧
        now.frame = e.frame.returning (some (.unknown result)) := by
  intro now h
  refine ⟨(blind_readReflected field e now h.similar).1, ?_⟩
  exact (leavesFrame_readReflected hspares field now).trans h.frame

/-- A method that knows its field commits what it finds out about it. -/
theorem onField_meets (hspares : machine.statics.SparesRegisters)
    (hresult : method.resultType? = some result) (h : e.Receives handle) :
    Meets (e.Seeded result) (machine.onField method handle)
      (e.frame.Answers result (machine.Commits e method result)) := by
  cases method with
  | fieldGet =>
    cases hresult
    refine .ofExcept_bind (fun field hfield => ?_) fun _ _ _ he => .of_error he.frame
    refine .bind (readReflected_meets hspares e _ field) (fun value => ?_) fun _ _ he =>
      .of_error he.2
    intro now hnow
    obtain ⟨hvalue, hframe⟩ := hnow
    apply (returnAs_meets e.frame _ value now hframe).mono
    intro form hform
    exact .found h (.content hfield hvalue.symm) hform
  | fieldGetName =>
    cases hresult
    intro now hnow
    apply (returnAs_meets e.frame _ _ now hnow.frame).mono
    intro form hform
    exact .found h .name hform
  | fieldGetModifiers =>
    cases hresult
    refine .ofExcept_bind (fun field hfield => ?_) fun _ _ _ he => .of_error he.frame
    intro now hnow
    apply (returnAs_meets e.frame _ _ now hnow.frame).mono
    intro form hform
    exact .found h (.modifiers hfield) hform
  | scripted => cases hresult

/-- A method on fields makes its result unknown, looks at its receiver and goes on with the field.
-/
theorem runWith_meets (hspares : machine.statics.SparesRegisters)
    (hresult : method.resultType? = some result) (invoke : String → Run Outcome) (e : Execution) :
    Meets (· = e) (machine.runWith invoke method)
      (e.frame.Answers result (machine.Commits e method result)) := by
  rw [runWith_eq hresult]
  refine .bind (returnUnknown_meets e result) (fun _ => ?_) fun _ _ he => .of_error he.frame
  refine .bind (receiver_meets e result) (fun handle? => ?_) fun _ _ he => .of_error he.2.frame
  intro now hnow
  obtain ⟨hreceiver, hseeded⟩ := hnow
  have hreceives := receives_of_receiver hreceiver.symm
  cases handle? with
  | none => exact ⟨_, hseeded.frame, fun _ _ => rfl, fun _ => .unknown hreceives⟩
  | some handle => exact onField_meets hspares hresult hreceives now hseeded

theorem fieldGet_answers (hspares : machine.statics.SparesRegisters) (e : Execution) :
    e.frame.Answers .object (machine.Commits e .fieldGet .object) (machine.fieldGet e).1
      (machine.fieldGet e).2 :=
  runWith_meets hspares rfl machine.invoke e e rfl

/-- Whatever the machine, the context and the initializers are, as long as these do not write to the
registers themselves: a method on fields that fails leaves an unknown value of its result type as
its result, and one that succeeds leaves a value of exactly that type, which is what it found out
about its field: the content that is read in the state of the call, the name or the flags, in the
form that the result type asks for. Nothing else of the frame changes: not the registers, not the
parameters, not the result of the last call, and not the calls that lead to the frame. Only
`Field.get` may change the static fields of the lineage. -/
theorem field_methods_seed_then_commit (machine : Machine)
    (hspares : machine.statics.SparesRegisters) {method : Method}
    (hmethod : method.resultType? = some result) (invoke : String → Run Outcome) (e : Execution) :
    ∃ value, (machine.runWith invoke method e).2.frame = e.frame.returning (some value) ∧
      (∀ failure, (machine.runWith invoke method e).1 = .error failure →
        value = .unknown result) ∧
      ((machine.runWith invoke method e).1 = .ok () →
        value.type = result ∧ machine.Commits e method result value) ∧
      (method ≠ .fieldGet → (machine.runWith invoke method e).2.lineage = e.lineage) := by
  obtain ⟨value, hframe, hfails, hcommits⟩ := runWith_meets hspares hmethod invoke e e rfl
  refine ⟨value, hframe, hfails, ?_, ?_⟩
  · intro hok
    exact ⟨type_of_commits (hcommits hok), hcommits hok⟩
  · intro hother
    cases method with
    | fieldGet => exact absurd rfl hother
    | fieldGetName => exact (keeps_fieldGetName e rfl).symm
    | fieldGetModifiers => exact (keeps_fieldGetModifiers e rfl).symm
    | scripted => cases hmethod

end Machine

/-- Parameters for the read of a field: the field, and the object. -/
def Execution.passing (handle : ReflectedField) (object : Value) : Execution :=
  .ofFrame (.root .standard (.withArguments [.handle ⟨0, 0⟩ handle, object])) (.start (.ofSource 1))

namespace Sample

/-- A call of `Field.get` on `count`. -/
def passingCount : Execution := .passing ⟨.localClass, count⟩ (.unknown .object)

theorem sparesRegisters_baseFails (program : Program) :
    (⟨program, some baseFails⟩ : StaticFields).SparesRegisters := by
  rintro _ ⟨⟩ type
  unfold baseFails
  split <;> trivial

theorem sparesRegisters_baseWrites (program : Program) :
    (⟨program, some baseWrites⟩ : StaticFields).SparesRegisters := by
  rintro _ ⟨⟩ type
  unfold baseWrites
  split
  · exact ⟨trivial, fun answer => by cases answer <;> trivial⟩
  · trivial

end Sample

namespace Machine

/-- A static field is read whose class extends one with an initializer: the result stays unknown if
the initializer fails, and is the content of the field in a box if not. -/
theorem field_methods_seed_then_commit_both_ways :
    (Sample.machine Sample.baseFails).statics.SparesRegisters ∧
    (Sample.machine Sample.baseWrites).statics.SparesRegisters ∧
    Method.fieldGet.resultType? = some .object ∧
    (∃ value,
      ((Sample.machine Sample.baseFails).runWith (fun _ => pure .completed) .fieldGet
        Sample.passingCount).2.frame = Sample.passingCount.frame.returning (some value) ∧
      value = .unknown .object) ∧
    ∃ value,
      ((Sample.machine Sample.baseWrites).runWith (fun _ => pure .completed) .fieldGet
        Sample.passingCount).2.frame = Sample.passingCount.frame.returning (some value) ∧
      value.type = .object ∧
      (Sample.machine Sample.baseWrites).Commits Sample.passingCount .fieldGet .object value ∧
      value = .known (.boxed (.int 5)) .object := by
  have hfailing := Sample.sparesRegisters_baseFails Sample.program
  have hwriting := Sample.sparesRegisters_baseWrites Sample.program
  have hresult : Method.fieldGet.resultType? = some .object := rfl
  refine ⟨hfailing, hwriting, hresult, ?_, ?_⟩
  · obtain ⟨value, hframe, hfails, -⟩ := field_methods_seed_then_commit
      (Sample.machine Sample.baseFails) hfailing hresult (fun _ => pure .completed)
      Sample.passingCount
    exact ⟨value, hframe, hfails (.fault (.initializerFailed Sample.base "boom")) (by rfl)⟩
  · obtain ⟨value, hframe, -, hcommits, -⟩ := field_methods_seed_then_commit
      (Sample.machine Sample.baseWrites) hwriting hresult (fun _ => pure .completed)
      Sample.passingCount
    obtain ⟨htype, hfound⟩ := hcommits (by rfl)
    have hvalue := congrArg (·.registers.returnValue) hframe
    exact ⟨value, hframe, htype, hfound, (Option.some.inj hvalue).symm⟩

end Machine

end Dalvik
