import Dalvik.Proofs.Initialization.ReadYourWrites
import Dalvik.Proofs.Reflection.Repetition
import Dalvik.Proofs.Values.Boxes

/-!
# The declared types of reads

A static field is read as it was assigned: an assignment looks at the payload alone, so the value
may be declared with another type than the field, and nothing declares it anew on the way to the
one who reads it. What a class declares for its fields has their types, and so have the defaults. So
a read has another type than its field just if it finds an assignment of such a value, and
`Field.get` returns what the read answers, with at most one box around it.
-/

namespace Dalvik

open History Run StaticFields

/-- Every value that is declared for a static field has the type of the field. -/
def ClassDefinition.InitialValuesDeclared (definition : ClassDefinition) : Prop :=
  ∀ field value, definition.initialValue? field = some value → value.type = field.type

/-- The values that the local classes declare have the types of their fields. -/
def Program.InitialValuesDeclared (program : Program) : Prop :=
  ∀ type definition, program.find? type = some definition → definition.InitialValuesDeclared

theorem Value.type_default (type : TypeDescriptor) : (Value.default type).type = type := by
  cases type with
  | primitive kind => cases kind <;> rfl
  | _ => rfl

theorem ClassDefinition.InitialValuesDeclared.startValue {definition : ClassDefinition}
    (h : definition.InitialValuesDeclared) (field : FieldId) :
    (definition.startValue field).type = field.type := by
  unfold ClassDefinition.startValue
  cases hvalue : definition.initialValue? field with
  | none => exact Value.type_default _
  | some value => exact h field value hvalue

/-! ## Assignments that a field still holds -/

namespace History

/-- The assignment that a static field still holds: the last one, if its class was not given its
values since. -/
def assigned (field : FieldId) : List StaticStep → Option Value
  | [] => none
  | .wrote other value :: earlier => if other = field then some value else assigned field earlier
  | .seeded type :: earlier => if type = field.owner then none else assigned field earlier
  | .began _ :: earlier | .started _ :: earlier | .ended _ _ :: earlier | .foreign _ :: earlier
  | .read _ _ :: earlier => assigned field earlier

/-- If the field still holds an assignment, the value was declared with the type of the field. -/
def KeepsType (field : FieldId) (history : List StaticStep) : Prop :=
  ∀ value, assigned field history = some value → value.type = field.type

variable {field : FieldId} {start : Value}

/-- Only an assignment brings another type. -/
theorem type_of_held (hstart : start.type = field.type) (history : List StaticStep) :
    ((held start field history).getD (.default field.type)).type = field.type ↔
      KeepsType field history := by
  unfold KeepsType
  induction history with
  | nil => simp [held, assigned, Value.type_default]
  | cons step earlier ih =>
    cases step with
    | wrote other value => by_cases heq : other = field <;> simp [held, assigned, heq, ih]
    | seeded type => by_cases heq : type = field.owner <;> simp [held, assigned, heq, hstart, ih]
    | _ => simpa only [held, assigned] using ih

end History

/-! ## Reads -/

namespace StaticFields

variable {statics : StaticFields} {lineage later : Lineage} {field : FieldId} {value : Value}

theorem Step.resolve_of_read (hs : statics.Step lineage later)
    (h : later.history = .read field value :: lineage.history) :
    ∃ declared, statics.resolve field = .ok declared := by
  cases hs with
  | read hdeclared hmarked hopen =>
    obtain ⟨rfl, -⟩ := StaticStep.read.inj (List.cons.inj h).1
    exact ⟨_, hdeclared⟩
  | _ => simp at h

/-- A read has the type of its field just if what the field holds was assigned with it. -/
theorem Reachable.type_of_read (h : statics.Reachable lineage)
    (hinitial : statics.program.InitialValuesDeclared) {since earlier : List StaticStep}
    (hh : lineage.history = since ++ .read field value :: earlier) :
    value.type = field.type ↔ KeepsType field earlier := by
  obtain ⟨before, after, hbefore, rfl, hstep, hafter⟩ := h.cut hh
  obtain ⟨declared, hdeclared⟩ := hstep.resolve_of_read hafter
  obtain ⟨rfl, definition, hfind, hmem⟩ := resolve_ok hdeclared
  rw [hstep.value_of_read hafter,
    hbefore.static?_eq_held hfind (List.mem_map_of_mem hmem)]
  exact type_of_held ((hinitial _ definition hfind).startValue _) before.history

/-- The read is the latest thing that happened when it answers. -/
theorem Reachable.latest_read {e : Execution} (h : statics.Reachable e.lineage)
    (hidle : Idle e.lineage) (hread : (statics.read field e).1 = .ok value) :
    statics.Reachable (statics.read field e).2.lineage ∧
      ∃ earlier, (statics.read field e).2.lineage.history = .read field value :: earlier := by
  obtain ⟨hadvances, hlatest⟩ := readWith_meets (prepares_initializeOnce statics) h
    (room_size statics e.lineage) hidle.isOpen field e rfl
  exact ⟨hadvances.reachable h, List.head?_eq_some_iff.1 (hlatest value hread)⟩

end StaticFields

/-! ## Reads through reflection -/

namespace Machine

variable {machine : Machine} {field : DeclaredField} {handle : ReflectedField} {e : Execution}
  {value : Value}

/-- A result is what was read, with a box around it unless it was declared as any object before. -/
theorem unboxed_returned (hknown : (returned (.ok (some value))).isKnown = true) :
    (returned (.ok (some value))).unboxed =
      if value.type = .object then value.unboxed else value := by
  by_cases hobject : value.type = .object
  · simp [returned, returnForm, hobject, Except.toOption]
  · have hreturned : returned (.ok (some value)) = value.boxed := by
      simp [returned, returnForm, hobject, Except.toOption, TypeDescriptor.isObject]
    rw [hreturned] at hknown ⊢
    rw [if_neg hobject]
    cases value with
    | known payload type => rfl
    | unknown type => cases hknown

/-- The content of a static field of a local class is read when the class is initialized. -/
theorem latest_readStatic (h : machine.statics.Reachable e.lineage) (hidle : Idle e.lineage)
    (hlocal : machine.program.isLocal field.owner = true)
    (hread : (machine.readStatic field e).1 = .ok value) :
    machine.statics.Reachable (machine.readStatic field e).2.lineage ∧
      ∃ earlier,
        (machine.readStatic field e).2.lineage.history = .read field.id value :: earlier := by
  have hadvances := keeps_openStatic h hidle field e (.refl _)
  unfold readStatic staticContent at hread ⊢
  rw [if_pos hlocal] at hread ⊢
  cases hopen : (machine.openStatic field e).1 with
  | error failure =>
    rw [bind_of_error hopen] at hread
    cases hread
  | ok =>
    rw [bind_of_ok hopen] at hread ⊢
    exact (hadvances.reachable h).latest_read (hadvances.idle hidle) hread

/-- What `Field.get` finds in a static field. -/
theorem search_of_receives (h : e.Receives handle)
    (hfield : machine.declaration handle = .ok field) (hstatic : field.isStatic = true) :
    machine.search e =
      ((machine.readStatic field (receiver e).2).1.map some,
        (machine.readStatic field (receiver e).2).2) := by
  have hhandle : machine.readHandle handle = machine.readStatic field := by
    unfold readHandle
    rw [hfield]
    exact if_pos hstatic
  unfold search
  rw [bind_of_ok (receiver_result h)]
  dsimp only
  rw [hhandle, bind_apply]
  rcases machine.readStatic field (receiver e).2 with ⟨failure | value, later⟩ <;> rfl

/-- A call that completes has read the field, and returns what it read. -/
theorem read_of_completed
    (hmethod : machine.methods.get? Method.fieldGetSignature = some .fieldGet)
    (hspares : machine.statics.SparesRegisters) (h : e.Receives handle)
    (hfield : machine.declaration handle = .ok field) (hstatic : field.isStatic = true)
    (hcompleted : (machine.invoke Method.fieldGetSignature e).1 = .ok .completed) :
    ∃ value, (machine.readStatic field (receiver e).2).1 = .ok value ∧
      (machine.invoke Method.fieldGetSignature e).2.lineage =
        (machine.readStatic field (receiver e).2).2.lineage ∧
      (machine.invoke Method.fieldGetSignature e).2.frame.registers.returnValue =
        some (returned (.ok (some value))) := by
  obtain ⟨houtcome, hlineage, hframe⟩ := invoke_of_search hmethod hspares e
  rw [houtcome] at hcompleted
  have hfound := Outcome.ok_of_completed hcompleted
  rw [search_of_receives h hfield hstatic] at hfound hlineage hframe
  cases hread : (machine.readStatic field (receiver e).2).1 with
  | error failure =>
    rw [hread] at hfound
    cases hfound
  | ok value =>
    rw [hread] at hframe
    exact ⟨value, rfl, hlineage, by rw [hframe]; rfl⟩

end Machine

namespace World

/-- If the declared values of static fields have the types of their fields, then in every lineage of
every world, whatever was done in it and whatever its initializers do: a read of a static field
answered with a value of another type than that of the field just if the field still held an
assignment of such a value, in a frame or in an initializer, and so does the next read. A call of
`Field.get` that returns a known value has read the field in the same way, and returns what it read,
taken out of its box if it was declared as any object, so unless it was in a box it has another type
in the same case. -/
theorem reads_declared_as_assigned (machine : Machine)
    (hinitial : machine.program.InitialValuesDeclared)
    (hspares : machine.statics.SparesRegisters) (operations : List Operation) {e : Execution}
    (h : e.lineage ∈ (after machine operations).lineages) :
    (∀ field value since earlier, e.lineage.history = since ++ .read field value :: earlier →
      (value.type = field.type ↔ KeepsType field earlier)) ∧
    (∀ field value, (machine.statics.read field e).1 = .ok value →
      ∃ earlier, (machine.statics.read field e).2.lineage.history = .read field value :: earlier ∧
        (value.type = field.type ↔ KeepsType field earlier)) ∧
    ∀ handle field result,
      machine.methods.get? Method.fieldGetSignature = some .fieldGet → e.Receives handle →
      machine.declaration handle = .ok field → field.isStatic = true →
      machine.program.isLocal field.owner = true →
      (machine.invoke Method.fieldGetSignature e).1 = .ok .completed →
      (machine.invoke Method.fieldGetSignature e).2.frame.registers.returnValue = some result →
      result.isKnown = true →
      ∃ value earlier,
        (machine.invoke Method.fieldGetSignature e).2.lineage.history =
          .read field.id value :: earlier ∧
        (value.type = field.id.type ↔ KeepsType field.id earlier) ∧
        result.unboxed = (if value.type = .object then value.unboxed else value) ∧
        (value.isBoxed = false →
          (result.unboxed.type = field.id.type ↔ KeepsType field.id earlier)) := by
  have hsound := sound_after machine operations
  have hreachable := hsound.reachable e.lineage h
  have hidle := hsound.idle e.lineage h
  refine ⟨?_, ?_, ?_⟩
  · intro field value since earlier hh
    exact hreachable.type_of_read hinitial hh
  · intro field value hread
    obtain ⟨hlater, earlier, hh⟩ := hreachable.latest_read hidle hread
    exact ⟨earlier, hh, hlater.type_of_read hinitial (hh.trans (List.nil_append _).symm)⟩
  · intro handle field result hmethod hreceives hfield hstatic hlocal hcompleted hresult hknown
    obtain ⟨value, hread, hlineage, hreturned⟩ :=
      Machine.read_of_completed hmethod hspares hreceives hfield hstatic hcompleted
    obtain rfl : Machine.returned (.ok (some value)) = result :=
      Option.some.inj (hreturned.symm.trans hresult)
    have hkept : (Machine.receiver e).2.lineage = e.lineage :=
      (Machine.similar_receiver e).lineage
    obtain ⟨hlater, earlier, hh⟩ :=
      Machine.latest_readStatic (hkept ▸ hreachable) (hkept ▸ hidle) hlocal hread
    have htype := hlater.type_of_read hinitial (hh.trans (List.nil_append _).symm)
    have hunboxed := Machine.unboxed_returned hknown
    refine ⟨value, earlier, by rw [hlineage, hh], htype, hunboxed, ?_⟩
    intro hplain
    rw [hunboxed, Value.unboxed_of_not_boxed hplain, ite_self]
    exact htype

end World

namespace Sample

/-- A static field of `base` for strings. -/
def label : FieldId := ⟨base, "S", .string⟩

/-- The local class `base` with the public field `label`. -/
def labelled : Program where
  definitions :=
    [.withField (.withParent (.ofName base) (some .object))
      ⟨"S", .string, .publicFlag ||| .staticFlag⟩]
  distinct := by decide

/-- The context `root` assigns to `label`. -/
def assignLabel (value : Value) : World.Operation := .act "root" (.writeStatic label value)

/-- The context `root` calls `Field.get` on `label`. -/
def getLabel : World.Operation :=
  .act "root" (.call (.withArguments [.handle ⟨0, 0⟩ ⟨.localClass, label⟩])
    Method.fieldGetSignature)

theorem initialValuesDeclared_labelled : labelled.InitialValuesDeclared := by
  intro type definition hfind field value hvalue
  obtain rfl := List.mem_singleton.1 (List.mem_of_find?_eq_some hfind)
  cases hvalue

end Sample

namespace World

/-- The field was assigned a string, and the string is in the box that is returned. -/
theorem reads_declared_as_assigned_string :
    let machine := Machine.ofProgram Sample.labelled
    let e : Execution := .ofFrame
      (Execution.passing ⟨.localClass, Sample.label⟩ (.unknown .object)).frame
      ((after machine [Sample.assignLabel (.string "a")]).lineage 0)
    machine.program.InitialValuesDeclared ∧ machine.statics.SparesRegisters ∧
    e.lineage ∈ (after machine [Sample.assignLabel (.string "a")]).lineages ∧
    (machine.invoke Method.fieldGetSignature e).2.frame.registers.returnValue =
      some (Value.string "a").boxed ∧
    (Value.string "a").boxed.unboxed.type = Sample.label.type := by
  intro machine e
  have hinitial : machine.program.InitialValuesDeclared := Sample.initialValuesDeclared_labelled
  have hspares : machine.statics.SparesRegisters := nofun
  have hmem : e.lineage ∈ (after machine [Sample.assignLabel (.string "a")]).lineages := .head _
  have hreturned : (machine.invoke Method.fieldGetSignature e).2.frame.registers.returnValue =
      some (Value.string "a").boxed := rfl
  obtain ⟨-, -, hget⟩ := reads_declared_as_assigned machine hinitial hspares _ hmem
  obtain ⟨value, earlier, hh, -, -, hplain⟩ :=
    hget ⟨.localClass, Sample.label⟩ ⟨Sample.label, .publicFlag ||| .staticFlag⟩ _ rfl
      ⟨0, ⟨0, 0⟩, .field, rfl⟩ rfl rfl rfl rfl hreturned rfl
  obtain ⟨hlatest, rfl⟩ := List.cons.inj hh
  obtain ⟨-, rfl⟩ := StaticStep.read.inj hlatest
  refine ⟨hinitial, hspares, hmem, hreturned, (hplain rfl).2 ?_⟩
  rintro _ ⟨⟩
  rfl

/-- The null reference of any object is assigned to a field for strings, and is read with that type,
also through reflection. -/
theorem null_of_other_type_read :
    let machine := Machine.ofProgram Sample.labelled
    let null : Value := .known .null .object
    Value.null .object = .ok null ∧
    machine.program.InitialValuesDeclared ∧ machine.statics.SparesRegisters ∧
    (perform machine (Sample.assignLabel null) (after machine [])).1 = some (.ok .none) ∧
    (perform machine (.act "root" (.readStatic Sample.label))
      (after machine [Sample.assignLabel null])).1 = some (.ok (.value (some null))) ∧
    null.type ≠ Sample.label.type ∧
    (perform machine Sample.getLabel (after machine [Sample.assignLabel null])).1 =
      some (.ok (.outcome .completed)) ∧
    (perform machine (.act "root" .readReturn)
      (after machine [Sample.assignLabel null, Sample.getLabel])).1 =
        some (.ok (.value (some null))) ∧
    null.isKnown = true ∧ null.unboxed.type ≠ Sample.label.type := by
  refine ⟨rfl, Sample.initialValuesDeclared_labelled, nofun, rfl, rfl, ?_, rfl, rfl, rfl, ?_⟩ <;>
    decide

end World

end Dalvik
