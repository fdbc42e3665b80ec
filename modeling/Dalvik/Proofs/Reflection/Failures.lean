import Dalvik.Proofs.Reflection.Results

/-!
# How a read of a field fails

`Field.get` may fail for many reasons, and the flags of the field tell which of them are possible:
access is denied only if the field is not public, only a static field has a class to initialize, and
only a field of an object needs one. Whatever an initializer fails with, the read does not fail with
that.
-/

namespace Dalvik

open Run StaticFields

/-- Why a parameter cannot be read: there is no such parameter, or it was never assigned. -/
inductive Registers.Unread (parameter : Nat) : Fault → Prop
  | absent (count : Nat) : Unread parameter (.parameterOutOfRange parameter count)
  | outOfRange (register count : Nat) : Unread parameter (.registerOutOfRange register count)
  | unset (register : Nat) : Unread parameter (.uninitializedRegister register)

/-- How the read of a field may fail. -/
inductive DeclaredField.ReadFails (field : DeclaredField) : Failure → Prop
  | denied (h : field.isPublic = false) :
      field.ReadFails (.fault (.accessDenied field.id field.visibility))
  /-- The class of a static field cannot be initialized. -/
  | uninitialized (h : field.isStatic = true) (culprit : TypeDescriptor) (reason : String) :
      field.ReadFails (.fault (.initializerFailed culprit reason))
  /-- The class of a static field is local, but does not have it. -/
  | absent (h : field.isStatic = true) : field.ReadFails (.fault (.fieldNotFound field.id))
  /-- No object was passed. -/
  | noObject {fault : Fault} (h : field.isStatic = false) (hunread : Registers.Unread 1 fault) :
      field.ReadFails (.fault fault)
  /-- What was passed is no object that has the field. -/
  | invalid (h : field.isStatic = false) (problem : InstanceProblem) :
      field.ReadFails (.fault (.invalidInstance field.id problem))

theorem DeclaredField.ReadFails.of_initializer {field : DeclaredField} {failure : Failure}
    (hstatic : field.isStatic = true) (h : IsInitializerFailure failure) :
    field.ReadFails failure := by
  obtain ⟨culprit, reason, rfl⟩ := h
  exact .uninitialized hstatic culprit reason

theorem Registers.unread_of_error {registers : Registers} {parameter : Nat} {fault : Fault}
    (h : registers.readParameter parameter = .error fault) : Unread parameter fault := by
  simp only [readParameter, parameterStart, read, bind, Except.bind] at h
  cases hstart : registers.parameters[parameter]? with
  | none =>
    rw [hstart] at h
    cases h
    exact .absent _
  | some start =>
    simp only [hstart] at h
    cases hslot : registers.slots[start]? with
    | none =>
      rw [hslot] at h
      cases h
      exact .outOfRange _ _
    | some slot =>
      rw [hslot] at h
      cases slot <;> cases h
      exact .unset _

theorem failsWith_readParameter (parameter : Nat) :
    FailsWith (fun failure => ∃ fault, failure = .fault fault ∧ Registers.Unread parameter fault)
      (readParameter parameter) := by
  intro e failure hfailure
  rw [readParameter_result] at hfailure
  cases hread : e.frame.registers.readParameter parameter with
  | ok found => simp [hread] at hfailure
  | error fault =>
    rw [hread] at hfailure
    cases hfailure
    exact ⟨fault, rfl, Registers.unread_of_error hread⟩

namespace Machine

variable {machine : Machine} {field : DeclaredField}

theorem declaration_error {handle : ReflectedField} {fault : Fault}
    (h : machine.declaration handle = .error fault) : fault = .noSuchField handle.field := by
  unfold declaration at h
  dsimp only at h
  split at h <;> cases h
  rfl

theorem failsWith_checkAccess (field : DeclaredField) :
    FailsWith field.ReadFails (Run.ofExcept (checkAccess field)) := by
  apply FailsWith.ofExcept
  intro fault hfault
  unfold checkAccess at hfault
  split at hfault
  · cases hfault
  · rename_i hdenied
    cases hfault
    exact .denied (by simpa using hdenied)

theorem failsWith_initializeOwner (owner : TypeDescriptor) :
    FailsWith IsInitializerFailure (machine.initializeOwner owner) := by
  unfold initializeOwner
  split
  · exact .bind (failsWith_initializeOnce machine.statics owner) fun _ => .pure _
  · refine .bind (.of_ok fun e => ?_) fun marked => ?_
    · rw [mark_apply]
      split <;> exact ⟨_, rfl⟩
    · cases marked with
      | true => exact .of_ok fun e => ⟨(), rfl⟩
      | false => exact .pure _

theorem failsWith_readStatic (hstatic : field.isStatic = true) :
    FailsWith field.ReadFails (machine.readStatic field) := by
  have howner : FailsWith field.ReadFails (machine.initializeOwner field.owner) :=
    (failsWith_initializeOwner field.owner).mono fun _ => .of_initializer hstatic
  refine .bind ?_ fun _ => ?_
  · unfold openStatic
    split
    · exact .bind howner fun _ => failsWith_checkAccess field
    · exact .bind (failsWith_checkAccess field) fun _ => howner
  · unfold staticContent
    split
    · refine (StaticFields.failsWith_read machine.statics field.id).mono ?_
      rintro failure (hinitializer | rfl)
      · exact .of_initializer hstatic hinitializer
      · exact .absent hstatic
    · exact .pure _

theorem failsWith_readInstance (hinstance : field.isStatic = false) (object : Value) :
    FailsWith field.ReadFails (Run.ofExcept (machine.readInstance field object)) := by
  apply FailsWith.ofExcept
  intro fault hfault
  rcases object.unboxed.null_or_inline_or_refersTo with ⟨type, hnull⟩ |
    ⟨payload, type, hpayload, hinline⟩ | ⟨type, hrefers⟩
  · rw [readInstance_of_null hnull] at hfault
    cases hfault
    exact .invalid hinstance .null
  · rw [readInstance_of_inline hpayload hinline] at hfault
    cases hfault
    exact .invalid hinstance (.incompatible type)
  · cases hclass : machine.isInstanceOf type field.owner with
    | true =>
      rw [readInstance_of_member hrefers hclass] at hfault
      cases hfault
    | false =>
      rw [readInstance_of_stranger hrefers hclass] at hfault
      cases hfault
      exact .invalid hinstance (.incompatible type)

theorem failsWith_readReflected (field : DeclaredField) :
    FailsWith field.ReadFails (machine.readReflected field) := by
  unfold readReflected
  cases hstatic : field.isStatic with
  | true => exact failsWith_readStatic hstatic
  | false =>
    refine .bind (failsWith_checkAccess field) fun _ => .bind ?_ fun object => ?_
    · refine (failsWith_readParameter 1).mono ?_
      rintro _ ⟨fault, rfl, hunread⟩
      exact .noObject hstatic hunread
    · exact failsWith_readInstance hstatic object

/-- A field that is not public is not read. -/
theorem readReflected_error_of_denied (hdenied : field.isPublic = false) (e : Execution) :
    ∃ failure, (machine.readReflected field e).1 = .error failure := by
  cases hstatic : field.isStatic with
  | false => exact ⟨_, readReflected_of_denied hstatic hdenied e⟩
  | true =>
    have hread : machine.readReflected field = machine.readStatic field := if_pos hstatic
    rw [hread, readStatic_apply_of_denied hdenied]
    cases machine.config.initOrder with
    | checkAccessFirst => exact ⟨_, rfl⟩
    | initializeFirst =>
      rcases machine.initializeOwner field.owner e with ⟨failure | _, later⟩
      · exact ⟨failure, rfl⟩
      · exact ⟨_, rfl⟩

/-- A read from an object leaves the lineage alone. -/
theorem keeps_readReflected_of_instance {I : Lineage → Prop} (hinstance : field.isStatic = false) :
    Keeps I (machine.readReflected field) := by
  unfold readReflected
  rw [if_neg (ne_true_of_eq_false hinstance)]
  exact .bind (.ofExcept _) fun _ => .bind (.readParameter 1) fun _ => .ofExcept _

end Machine

end Dalvik
