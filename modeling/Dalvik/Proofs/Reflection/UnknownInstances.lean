import Dalvik.Proofs.Hierarchy
import Dalvik.Proofs.Reflection.Results

/-!
# Reads from objects that are not known

An unknown value stands for every object of its type. `Field.get` takes the declared type of such a
value for the class of the object, so it rejects the value whenever the type is not one of the class
that declares the field. That is right if no object of the type has the field, but a class that
extends the type may have it: then the call throws for the unknown value, and not for an object that
the value stands for.
-/

namespace Dalvik

open Run

/-- The method was called on this field, with this object. -/
def Execution.Passes (e : Execution) (handle : ReflectedField) (object : Value) : Prop :=
  e.Receives handle ∧ ∃ start, e.frame.registers.readParameter 1 = .ok (start, object)

theorem Execution.passes_passing (handle : ReflectedField) (object : Value) :
    (passing handle object).Passes handle object := by
  refine ⟨⟨0, ⟨0, 0⟩, .field, rfl⟩, 1, ?_⟩
  show Registers.readParameter ⟨some _ :: Registers.argumentSlots object, [0, 1], _, _, _⟩ 1 = _
  unfold Registers.argumentSlots
  split <;> rfl

/-- What refers to an object is not boxed. -/
theorem Value.RefersTo.unboxed {object : Value} {type : TypeDescriptor} (h : object.RefersTo type) :
    object.unboxed = object := by
  cases h <;> rfl

namespace Machine

variable {machine : Machine} {handle : ReflectedField} {field : DeclaredField} {object : Value}
  {type : TypeDescriptor}

/-- Every call of `Field.get` on the field with this object throws because of the object. -/
def Rejects (machine : Machine) (handle : ReflectedField) (object : Value) : Prop :=
  ∀ e : Execution, e.Passes handle object → ∃ exception field problem,
    (machine.invoke Method.fieldGetSignature e).1 =
      .ok (.threw exception (.invalidInstance field problem))

/-- The known objects for which an unknown value of this type stands. -/
def StandsFor (machine : Machine) (type : TypeDescriptor) (object : Value) : Prop :=
  object.isKnown = true ∧
    ∃ runtimeClass, object.RefersTo runtimeClass ∧ machine.isInstanceOf runtimeClass type = true

/-- If an unknown value of this type is rejected, then so is all that it stands for. -/
def RejectionIsCertain (machine : Machine) (handle : ReflectedField) (type : TypeDescriptor) :
    Prop :=
  machine.Rejects handle (.unknown type) →
    ∀ object, machine.StandsFor type object → machine.Rejects handle object

/-- An object is rejected if it does not have the field. -/
theorem rejects_iff (hmethod : machine.methods.get? Method.fieldGetSignature = some .fieldGet)
    (hfield : machine.declaration handle = .ok field) (hinstance : field.isStatic = false)
    (hpublic : field.isPublic = true) (hrefers : object.RefersTo type) :
    machine.Rejects handle object ↔ machine.isInstanceOf type field.owner = false := by
  have hrefers' : object.unboxed.RefersTo type := hrefers.unboxed.symm ▸ hrefers
  have hresult : ∀ e : Execution, e.Passes handle object →
      (machine.invoke Method.fieldGetSignature e).1 = Outcome.ofResult
        (((machine.readInstance field object).mapError .fault).map fun _ => ()) := by
    rintro e ⟨hreceives, start, hobject⟩
    rw [invoke_result hmethod, fieldGet_of_object hreceives hfield hinstance hpublic hobject]
  constructor
  · intro hrejects
    refine eq_false_of_ne_true fun hclass => ?_
    obtain ⟨exception, id, problem, hthrew⟩ := hrejects _ (Execution.passes_passing handle object)
    rw [hresult _ (Execution.passes_passing handle object),
      readInstance_of_member hrefers' hclass] at hthrew
    cases hthrew
  · intro hclass e he
    rw [hresult e he, readInstance_of_stranger hrefers' hclass]
    exact ⟨_, _, _, rfl⟩

/-- The rejection of an unknown value is certain just if it does not happen, or the class that
declares the field is not one of the type of the value. -/
theorem rejection_of_unknown_certain_iff
    (hmethod : machine.methods.get? Method.fieldGetSignature = some .fieldGet)
    (hfield : machine.declaration handle = .ok field) (hinstance : field.isStatic = false)
    (hpublic : field.isPublic = true) (type : TypeDescriptor) :
    machine.RejectionIsCertain handle type ↔
      machine.isInstanceOf type field.owner = true ∨
        machine.isInstanceOf field.owner type = false := by
  have hrejects {object : Value} {runtimeClass : TypeDescriptor}
      (hrefers : object.RefersTo runtimeClass) :=
    rejects_iff hmethod hfield hinstance hpublic hrefers
  constructor
  · intro hcertain
    cases hup : machine.isInstanceOf type field.owner with
    | true => exact .inl rfl
    | false =>
      refine .inr (eq_false_of_ne_true fun hdown => ?_)
      -- An object of the class itself has the field, and the value stands for it.
      have hown : Value.RefersTo (.object ⟨0, 0⟩ (.ofClass field.owner)) field.owner :=
        .object _ (.ofClass field.owner) _
      have hno := (hrejects hown).1
        (hcertain ((hrejects (.unknown type)).2 hup) _ ⟨rfl, _, hown, hdown⟩)
      rw [isInstanceOf_self] at hno
      cases hno
  · rintro hsides hunknown object ⟨-, runtimeClass, hrefers, hclass⟩
    have hup := (hrejects (.unknown type)).1 hunknown
    have hdown : machine.isInstanceOf field.owner type = false := by simpa [hup] using hsides
    refine (hrejects hrefers).2 (eq_false_of_ne_true fun hmember => ?_)
    -- A class has one line of classes that it extends, and both types would be on it.
    rcases isInstanceOf_total hclass hmember with h | h
    · simp [hup] at h
    · simp [hdown] at h

end Machine

/-- An instance field of `derived`. -/
def Sample.size : FieldId := ⟨derived, "i", .int⟩

/-- The class `derived` with the field `size`. -/
def Sample.sized : Program where
  definitions := [.withField (.ofName derived) ⟨"i", .int, .publicFlag⟩]
  distinct := by decide

namespace Machine

/-- A value of an unrelated class is rejected, and every object of that class would be. -/
theorem rejection_of_unknown_certain_iff_unrelated :
    (Machine.ofProgram Sample.sized).RejectionIsCertain ⟨.localClass, Sample.size⟩ Sample.base := by
  have hfield : (Machine.ofProgram Sample.sized).declaration ⟨.localClass, Sample.size⟩ =
    .ok _ := rfl
  exact (rejection_of_unknown_certain_iff rfl hfield rfl rfl Sample.base).2 (.inr rfl)

/-- An unknown value of the root of the hierarchy is rejected, although it stands for an object of
the class that declares the field, which is read. -/
theorem unknown_object_rejected_although_readable :
    ((Machine.ofProgram Sample.sized).invoke Method.fieldGetSignature
      (.passing ⟨.localClass, Sample.size⟩ (.unknown .object))).1 =
        .ok (.threw .illegalArgument (.invalidInstance Sample.size (.incompatible .object))) ∧
    (Machine.ofProgram Sample.sized).StandsFor .object
      (.object ⟨0, 1⟩ (.ofClass Sample.derived)) ∧
    ((Machine.ofProgram Sample.sized).invoke Method.fieldGetSignature
      (.passing ⟨.localClass, Sample.size⟩ (.object ⟨0, 1⟩ (.ofClass Sample.derived)))).1 =
        .ok .completed :=
  ⟨rfl, ⟨rfl, Sample.derived, .object _ (.ofClass Sample.derived) _, rfl⟩, rfl⟩

end Machine

end Dalvik
