import Dalvik.Proofs.Reflection.Results
import Dalvik.Proofs.Registers

/-!
# `Field.get` on fields of local classes

How a read of a field of a local class may end, as a relation with one rule for each way, and that
every call ends as one of the rules says. The rules exclude each other: an undeclared field comes
before everything, a field that is not public is denied before there is a look at an object, and
only the initialization of a class makes a call fail that has all its parameters.
-/

namespace Dalvik.Machine

open Run StaticFields

variable {machine : Machine} {e : Execution} {id : FieldId} {field : DeclaredField}
  {answer : Except Failure Outcome}

/-- A call of `Field.get` on the field `id` of a local class may end like this. -/
inductive ReadsLocal (machine : Machine) (e : Execution) (id : FieldId) :
    Except Failure Outcome → Prop
  /-- The class is not local, or does not declare the field. -/
  | undeclared :
      machine.program.declaration? id = none →
      ReadsLocal machine e id (.ok (.threw .noSuchField (.noSuchField id)))
  /-- The field is not public. If the class of a static field is initialized first, that has
  succeeded. -/
  | denied {field : DeclaredField} :
      machine.program.declaration? id = some field → field.isPublic = false →
      (field.isStatic = true → machine.config.initOrder = .initializeFirst →
        ∃ ran, (machine.statics.initializeOnce id.owner e).1 = .ok ran) →
      ReadsLocal machine e id (.ok (.threw .illegalAccess (.accessDenied id field.visibility)))
  /-- The class of a static field cannot be initialized. -/
  | failed {field : DeclaredField} {culprit : TypeDescriptor} {reason : String} :
      machine.program.declaration? id = some field → field.isStatic = true →
      field.isPublic = true ∨ machine.config.initOrder = .initializeFirst →
      (machine.statics.initializeOnce id.owner e).1 =
        .error (.fault (.initializerFailed culprit reason)) →
      ReadsLocal machine e id (.error (.fault (.initializerFailed culprit reason)))
  /-- The class of a public static field can be initialized, or has been. -/
  | ofClass {field : DeclaredField} {ran : Bool} :
      machine.program.declaration? id = some field → field.isStatic = true →
      field.isPublic = true → (machine.statics.initializeOnce id.owner e).1 = .ok ran →
      ReadsLocal machine e id (.ok .completed)
  /-- There is no parameter for the object. -/
  | missing {field : DeclaredField} :
      machine.program.declaration? id = some field → field.isStatic = false →
      field.isPublic = true → e.frame.registers.parameters[1]? = none →
      ReadsLocal machine e id
        (.error (.fault (.parameterOutOfRange 1 e.frame.registers.parameters.length)))
  /-- The parameter for the object was never assigned. -/
  | unset {field : DeclaredField} {start : Nat} :
      machine.program.declaration? id = some field → field.isStatic = false →
      field.isPublic = true → e.frame.registers.parameters[1]? = some start →
      e.frame.registers.slots[start]? = some none →
      ReadsLocal machine e id (.error (.fault (.uninitializedRegister start)))
  /-- There is null instead of an object. -/
  | null {field : DeclaredField} {start : Nat} {object : Value} {type : TypeDescriptor} :
      machine.program.declaration? id = some field → field.isStatic = false →
      field.isPublic = true → e.frame.registers.readParameter 1 = .ok (start, object) →
      object.unboxed = .known .null type →
      ReadsLocal machine e id (.ok (.threw .nullPointer (.invalidInstance id .null)))
  /-- There is a number instead of an object, or one box too many around it. -/
  | inline {field : DeclaredField} {start : Nat} {object : Value} {payload : Payload}
        {type : TypeDescriptor} :
      machine.program.declaration? id = some field → field.isStatic = false →
      field.isPublic = true → e.frame.registers.readParameter 1 = .ok (start, object) →
      object.unboxed = .known payload type → payload.isInline = true →
      ReadsLocal machine e id
        (.ok (.threw .illegalArgument (.invalidInstance id (.incompatible type))))
  /-- The object is not one of the class that declares the field. -/
  | stranger {field : DeclaredField} {start : Nat} {object : Value} {type : TypeDescriptor} :
      machine.program.declaration? id = some field → field.isStatic = false →
      field.isPublic = true → e.frame.registers.readParameter 1 = .ok (start, object) →
      object.unboxed.RefersTo type → machine.isInstanceOf type id.owner = false →
      ReadsLocal machine e id
        (.ok (.threw .illegalArgument (.invalidInstance id (.incompatible type))))
  /-- The object is one of the class that declares the field. -/
  | ofObject {field : DeclaredField} {start : Nat} {object : Value} {type : TypeDescriptor} :
      machine.program.declaration? id = some field → field.isStatic = false →
      field.isPublic = true → e.frame.registers.readParameter 1 = .ok (start, object) →
      object.unboxed.RefersTo type → machine.isInstanceOf type id.owner = true →
      ReadsLocal machine e id (.ok .completed)

/-! ## Declared fields -/

theorem id_of_local (h : machine.program.declaration? id = some field) : field.id = id := by
  obtain ⟨definition, -, hdeclared⟩ := Option.bind_eq_some_iff.1 h
  exact ClassDefinition.id_of_declaration? hdeclared

theorem isLocal_of_declared (h : machine.program.declaration? id = some field) :
    machine.program.isLocal id.owner = true := by
  obtain ⟨definition, hfind, -⟩ := Option.bind_eq_some_iff.1 h
  exact Option.isSome_iff_exists.2 ⟨definition, hfind⟩

theorem declaration_of_local (h : machine.program.declaration? id = some field) :
    machine.declaration ⟨.localClass, id⟩ = .ok field := by
  simp only [declaration, h]

theorem declaration_of_undeclared (h : machine.program.declaration? id = none) :
    machine.declaration ⟨.localClass, id⟩ = .error (.noSuchField id) := by
  simp only [declaration, h]

theorem resolve_of_local (h : machine.program.declaration? id = some field)
    (hstatic : field.isStatic = true) : machine.statics.resolve id = .ok field := by
  have hdeclared : machine.statics.program.declaration? id = some field := h
  simp only [resolve, hdeclared, hstatic, if_true]

/-! ## Every rule describes the call -/

/-- A public static field is read just if its class can be initialized. -/
theorem readReflected_of_class (h : machine.program.declaration? id = some field)
    (hstatic : field.isStatic = true) (hpublic : field.isPublic = true) (e : Execution) :
    ((machine.readReflected field e).1.map fun _ => ()) =
      (machine.statics.initializeOnce id.owner e).1.map fun _ => () := by
  obtain rfl := id_of_local h
  unfold readReflected
  rw [if_pos hstatic]
  exact readStatic_of_public (isLocal_of_declared h) (resolve_of_local h hstatic) hpublic e

theorem fieldGet_of_readsLocal (hreceives : e.Receives ⟨.localClass, id⟩)
    (h : machine.ReadsLocal e id answer) :
    Outcome.ofResult (machine.fieldGet e).1 = answer := by
  cases h with
  | undeclared h =>
    rw [fieldGet_of_undeclared hreceives (declaration_of_undeclared h)]
    rfl
  | @denied field h hdenied hinit =>
    obtain rfl := id_of_local h
    rw [fieldGet_of_declared hreceives (declaration_of_local h)]
    cases hstatic : field.isStatic with
    | false =>
      rw [readReflected_of_denied hstatic hdenied]
      rfl
    | true =>
      unfold readReflected
      rw [if_pos hstatic, readStatic_of_denied (isLocal_of_declared h) hdenied]
      cases horder : machine.config.initOrder with
      | checkAccessFirst => rfl
      | initializeFirst =>
        obtain ⟨ran, hran⟩ := hinit hstatic horder
        have hran' : (machine.statics.initializeOnce field.owner e).1 = .ok ran := hran
        rw [hran']
        rfl
  | @failed field culprit reason h hstatic hreached hfailed =>
    rw [fieldGet_of_declared hreceives (declaration_of_local h)]
    cases hpublic : field.isPublic with
    | true =>
      rw [readReflected_of_class h hstatic hpublic, hfailed]
      rfl
    | false =>
      obtain rfl := id_of_local h
      have horder : machine.config.initOrder = .initializeFirst := by simpa [hpublic] using hreached
      have hfailed' : (machine.statics.initializeOnce field.owner e).1 = _ := hfailed
      unfold readReflected
      rw [if_pos hstatic, readStatic_of_denied (isLocal_of_declared h) hpublic, horder, hfailed']
      rfl
  | ofClass h hstatic hpublic hran =>
    rw [fieldGet_of_declared hreceives (declaration_of_local h),
      readReflected_of_class h hstatic hpublic, hran]
    rfl
  | missing h hinstance hpublic hmissing =>
    rw [fieldGet_of_declared hreceives (declaration_of_local h),
      readReflected_of_instance hinstance hpublic, Registers.readParameter_of_absent hmissing]
    rfl
  | unset h hinstance hpublic hstart hunset =>
    rw [fieldGet_of_declared hreceives (declaration_of_local h),
      readReflected_of_instance hinstance hpublic, Registers.readParameter_of_unset hstart hunset]
    rfl
  | null h hinstance hpublic hobject hnull =>
    obtain rfl := id_of_local h
    rw [fieldGet_of_object hreceives (declaration_of_local h) hinstance hpublic hobject,
      readInstance_of_null hnull]
    rfl
  | inline h hinstance hpublic hobject hpayload hinline =>
    obtain rfl := id_of_local h
    rw [fieldGet_of_object hreceives (declaration_of_local h) hinstance hpublic hobject,
      readInstance_of_inline hpayload hinline]
    rfl
  | stranger h hinstance hpublic hobject hrefers hclass =>
    obtain rfl := id_of_local h
    rw [fieldGet_of_object hreceives (declaration_of_local h) hinstance hpublic hobject,
      readInstance_of_stranger hrefers hclass]
    rfl
  | ofObject h hinstance hpublic hobject hrefers hclass =>
    obtain rfl := id_of_local h
    rw [fieldGet_of_object hreceives (declaration_of_local h) hinstance hpublic hobject,
      readInstance_of_member hrefers hclass]
    rfl

/-! ## Some rule describes the call -/

/-- The initialization of a class that was asked for has succeeded or not. -/
theorem initializeOnce_cases (machine : Machine) (type : TypeDescriptor) (e : Execution) :
    (∃ ran, (machine.statics.initializeOnce type e).1 = .ok ran) ∨
    ∃ culprit reason, (machine.statics.initializeOnce type e).1 =
      .error (.fault (.initializerFailed culprit reason)) := by
  cases h : (machine.statics.initializeOnce type e).1 with
  | ok ran => exact .inl ⟨ran, rfl⟩
  | error failure =>
    obtain ⟨culprit, reason, rfl⟩ := failsWith_initializeOnce machine.statics type e failure h
    exact .inr ⟨culprit, reason, rfl⟩

theorem exists_readsLocal_static (h : machine.program.declaration? id = some field)
    (hstatic : field.isStatic = true) : ∃ answer, machine.ReadsLocal e id answer := by
  by_cases hreached : field.isPublic = true ∨ machine.config.initOrder = .initializeFirst
  · rcases initializeOnce_cases machine id.owner e with ⟨ran, hran⟩ | ⟨culprit, reason, hfailed⟩
    · cases hpublic : field.isPublic with
      | true => exact ⟨_, .ofClass h hstatic hpublic hran⟩
      | false => exact ⟨_, .denied h hpublic fun _ _ => ⟨ran, hran⟩⟩
    · exact ⟨_, .failed h hstatic hreached hfailed⟩
  · obtain ⟨hdenied, horder⟩ := not_or.1 hreached
    exact ⟨_, .denied h (eq_false_of_ne_true hdenied) fun _ hfirst => absurd hfirst horder⟩

theorem exists_readsLocal_instance (hmade : e.frame.registers.Made)
    (h : machine.program.declaration? id = some field) (hinstance : field.isStatic = false) :
    ∃ answer, machine.ReadsLocal e id answer := by
  cases hpublic : field.isPublic with
  | false => exact ⟨_, .denied h hpublic (by simp [hinstance])⟩
  | true =>
    rcases hmade.inRange.parameter_cases 1 with hmissing | ⟨start, hstart, hunset⟩ |
      ⟨start, object, hobject⟩
    · exact ⟨_, .missing h hinstance hpublic hmissing⟩
    · exact ⟨_, .unset h hinstance hpublic hstart hunset⟩
    · rcases object.unboxed.null_or_inline_or_refersTo with ⟨type, hnull⟩ |
        ⟨payload, type, hpayload, hinline⟩ | ⟨type, hrefers⟩
      · exact ⟨_, .null h hinstance hpublic hobject hnull⟩
      · exact ⟨_, .inline h hinstance hpublic hobject hpayload hinline⟩
      · cases hclass : machine.isInstanceOf type id.owner with
        | true => exact ⟨_, .ofObject h hinstance hpublic hobject hrefers hclass⟩
        | false => exact ⟨_, .stranger h hinstance hpublic hobject hrefers hclass⟩

theorem exists_readsLocal (hmade : e.frame.registers.Made) :
    ∃ answer, machine.ReadsLocal e id answer := by
  cases h : machine.program.declaration? id with
  | none => exact ⟨_, .undeclared h⟩
  | some field =>
    cases hstatic : field.isStatic with
    | true => exact exists_readsLocal_static h hstatic
    | false => exact exists_readsLocal_instance hmade h hstatic

/-- A call of `Field.get` on a field of a local class ends like this just if a rule says so,
whatever the machine, its initializers and the state of the lineage are. So there is exactly one
answer for each call. -/
theorem field_get_local_iff
    (hmethod : machine.methods.get? Method.fieldGetSignature = some .fieldGet)
    (hmade : e.frame.registers.Made) (hreceives : e.Receives ⟨.localClass, id⟩) :
    (machine.invoke Method.fieldGetSignature e).1 = answer ↔ machine.ReadsLocal e id answer := by
  rw [invoke_result hmethod]
  constructor
  · rintro rfl
    obtain ⟨answer, h⟩ := exists_readsLocal hmade
    rwa [fieldGet_of_readsLocal hreceives h]
  · exact fieldGet_of_readsLocal hreceives

/-- A static field is read whose class extends one with an initializer that fails. -/
theorem field_get_local_iff_failing :
    (Sample.machine Sample.baseFails).methods.get? Method.fieldGetSignature = some .fieldGet ∧
    (Execution.passing ⟨.localClass, Sample.count⟩ (.unknown .object)).frame.registers.Made ∧
    (Execution.passing ⟨.localClass, Sample.count⟩ (.unknown .object)).Receives
      ⟨.localClass, Sample.count⟩ ∧
    ((Sample.machine Sample.baseFails).invoke Method.fieldGetSignature
      (.passing ⟨.localClass, Sample.count⟩ (.unknown .object))).1 =
        .error (.fault (.initializerFailed Sample.base "boom")) := by
  have hmethod : (Sample.machine Sample.baseFails).methods.get? Method.fieldGetSignature =
      some .fieldGet := rfl
  have hmade : (Execution.passing ⟨.localClass, Sample.count⟩
      (.unknown .object)).frame.registers.Made := .setTraced _ (.withArguments _)
  have hreceives : (Execution.passing ⟨.localClass, Sample.count⟩ (.unknown .object)).Receives
      ⟨.localClass, Sample.count⟩ := ⟨0, ⟨0, 0⟩, .field, rfl⟩
  have hfield : (Sample.machine Sample.baseFails).program.declaration? Sample.count = some _ := rfl
  exact ⟨hmethod, hmade, hreceives, (field_get_local_iff hmethod hmade hreceives).2
    (.failed hfield rfl (.inl rfl) rfl)⟩

end Dalvik.Machine
