import Dalvik.Proofs.Values.Worlds

/-!
# Payloads and declared types

A value is well made if its payload may have its declared type, and likewise inside its boxes. Which
values can come about is told by one rule for each way to make a value; the library makes none in
another way. Only one of the ways can make a value that is not well made: an object is declared with
its own class, whatever type that is. So a value is well made unless it is, or has in its boxes, an
object whose class is no class.
-/

namespace Dalvik

open Run

/-- What a payload is put together from: a box from its content, an object from the contents of its
tracked fields. -/
inductive Payload.Part : Payload → Value → Prop
  | content (content : Value) : Part (.boxed content) content
  | field {identity : Identity} {object : ObjectState} {field : FieldId} {value : Value} :
      object.content? field = some value → Part (.object identity object) value

namespace Value

/-- The payload may have the declared type, and so may the payload of every value inside a box. -/
inductive WellMade : Value → Prop
  | unknown (type : TypeDescriptor) : WellMade (.unknown type)
  | known {payload : Payload} {type : TypeDescriptor} :
      payload.fits type = true → (∀ content, payload = .boxed content → WellMade content) →
      WellMade (.known payload type)

/-- The value is the other one, or is in one of its boxes. -/
inductive Inside : Value → Value → Prop
  | self (value : Value) : Inside value value
  | box {value content : Value} (type : TypeDescriptor) :
      Inside value content → Inside value (.known (.boxed content) type)

/-- The values that can be made, with one rule for each way to make them. Payloads and objects may
be put together from any values that can be made, and these can be got back. A copy of a value is the
value itself. -/
inductive Built : Value → Prop
  | known {payload : Payload} {type : TypeDescriptor} {value : Value} :
      (∀ part, payload.Part part → Built part) → ofPayload payload type = .ok value → Built value
  | part {payload : Payload} {type : TypeDescriptor} {value : Value} :
      Built (.known payload type) → payload.Part value → Built value
  | unknown (type : TypeDescriptor) : Built (.unknown type)
  | null {type : TypeDescriptor} {value : Value} : null type = .ok value → Built value
  | int (value : Int32) : Built (.int value)
  | long (value : Int64) : Built (.long value)
  | boolean (value : Bool) : Built (.boolean value)
  | double (bits : UInt64) : Built (.double bits)
  | string (text : String) : Built (.string text)
  | handle (identity : Identity) (content : ReflectedField) : Built (.handle identity content)
  | object (identity : Identity) {content : ObjectState} :
      (∀ field value, content.content? field = some value → Built value) →
      Built (.object identity content)
  | default (type : TypeDescriptor) : Built (.default type)
  | boxed {value : Value} : Built value → Built value.boxed
  | unboxed {value : Value} : Built value → Built value.unboxed

/-- `P` holds of the value and of everything that it is put together from. -/
inductive Throughout (P : Value → Prop) : Value → Prop
  | unknown {type : TypeDescriptor} : P (.unknown type) → Throughout P (.unknown type)
  | known {payload : Payload} {type : TypeDescriptor} :
      P (.known payload type) → (∀ part, payload.Part part → Throughout P part) →
      Throughout P (.known payload type)

/-- The payload may have the declared type, or the value is an object that is declared with its own
class. -/
def FitsOrObject (value : Value) : Prop :=
  (∀ payload, value.payload? = some payload → payload.fits value.type = true) ∨
    ∃ identity content, value = .object identity content

variable {P : Value → Prop} {payload : Payload} {type : TypeDescriptor} {value : Value}

/-! ## Everything in a value -/

theorem Throughout.self (h : value.Throughout P) : P value := by
  cases h with
  | unknown h => exact h
  | known h _ => exact h

theorem Throughout.part {part : Value} (h : (Value.known payload type).Throughout P)
    (hpart : payload.Part part) : part.Throughout P := by
  cases h with
  | known _ hparts => exact hparts part hpart

/-- A payload that is put together from nothing. -/
theorem throughout_of_plain (h : P (.known payload type)) (hplain : ∀ part, ¬ payload.Part part) :
    (known payload type).Throughout P :=
  .known h fun part hpart => absurd hpart (hplain part)

theorem Throughout.unboxed (h : value.Throughout P) : value.unboxed.Throughout P := by
  unfold Value.unboxed
  split
  · exact h.part (.content _)
  · exact h

/-- What is boxed has the value as its only part. -/
theorem Throughout.boxed (h : value.Throughout P) (hboxed : P value.boxed) :
    value.boxed.Throughout P := by
  cases value with
  | unknown type => exact .unknown hboxed
  | known payload type =>
    apply Throughout.known hboxed
    intro part hpart
    cases hpart with
    | content => exact h

/-! ## Everything in a value that can be made -/

theorem fitsOrObject_unknown (type : TypeDescriptor) : FitsOrObject (.unknown type) :=
  .inl nofun

theorem fitsOrObject_of_fits (h : payload.fits type = true) :
    FitsOrObject (.known payload type) := by
  apply Or.inl
  rintro _ ⟨⟩
  exact h

theorem throughout_of_fits (h : payload.fits type = true) (hplain : ∀ part, ¬ payload.Part part) :
    Throughout FitsOrObject (.known payload type) :=
  throughout_of_plain (fitsOrObject_of_fits h) hplain

theorem throughout_default (type : TypeDescriptor) : Throughout FitsOrObject (.default type) := by
  cases type with
  | void => exact .unknown (fitsOrObject_unknown _)
  | named name => exact throughout_of_fits rfl nofun
  | array component => exact throughout_of_fits rfl nofun
  | primitive kind => cases kind <;> exact throughout_of_fits rfl nofun

theorem eq_of_ofPayload (h : ofPayload payload type = .ok value) :
    payload.fits type = true ∧ value = .known payload type := by
  unfold ofPayload at h
  split at h
  · rename_i hfits
    cases h
    exact ⟨hfits, rfl⟩
  · cases h

theorem Built.throughout (h : value.Built) : value.Throughout FitsOrObject := by
  induction h with
  | known _ hmade ih =>
    obtain ⟨hfits, rfl⟩ := eq_of_ofPayload hmade
    exact .known (fitsOrObject_of_fits hfits) ih
  | part _ hpart ih => exact ih.part hpart
  | unknown type => exact .unknown (fitsOrObject_unknown type)
  | null hmade =>
    obtain ⟨hfits, rfl⟩ := eq_of_ofPayload hmade
    exact throughout_of_fits hfits nofun
  | int | long | boolean | double | string | handle => exact throughout_of_fits rfl nofun
  | object identity _ ih =>
    refine .known (.inr ⟨identity, _, rfl⟩) fun part hpart => ?_
    cases hpart with
    | field hfound => exact ih _ _ hfound
  | default type => exact throughout_default type
  | @boxed value _ ih =>
    apply ih.boxed
    cases value with
    | unknown type => exact fitsOrObject_unknown _
    | known payload type => exact fitsOrObject_of_fits rfl
  | unboxed _ ih => exact ih.unboxed

/-! ## When a value is well made -/

theorem wellMade_boxed_iff {content : Value} :
    WellMade (.known (.boxed content) type) ↔ type.isNamed = true ∧ content.WellMade := by
  constructor
  · intro h
    cases h with
    | known hfits hcontent => exact ⟨hfits, hcontent content rfl⟩
  · rintro ⟨hnamed, hcontent⟩
    refine .known hnamed ?_
    rintro _ ⟨⟩
    exact hcontent

theorem wellMade_iff_fits (hplain : ∀ content, payload ≠ .boxed content) :
    WellMade (.known payload type) ↔ payload.fits type = true := by
  constructor
  · intro h
    cases h with
    | known hfits _ => exact hfits
  · intro hfits
    exact .known hfits fun content hbox => absurd hbox (hplain content)

theorem inside_boxed_iff {content : Value} :
    value.Inside (.known (.boxed content) type) ↔
      value = .known (.boxed content) type ∨ value.Inside content := by
  constructor
  · intro h
    cases h with
    | self => exact .inl rfl
    | box _ h => exact .inr h
  · rintro (rfl | h)
    · exact .self _
    · exact .box type h

theorem inside_iff_eq (hplain : ∀ content, payload ≠ .boxed content) :
    value.Inside (.known payload type) ↔ value = .known payload type := by
  constructor
  · intro h
    cases h with
    | self => rfl
    | box => exact absurd rfl (hplain _)
  · rintro rfl
    exact .self _

/-- If nothing in a value but objects can fail to fit, it is well made unless an object in its boxes
has a class that is no class. -/
theorem Throughout.wellMade_iff (h : value.Throughout FitsOrObject) :
    value.WellMade ↔ ∀ identity content, (Value.object identity content).Inside value →
      content.runtimeClass.isNamed = true := by
  induction h with
  | @unknown type _ =>
    refine ⟨fun _ identity content hinside => ?_, fun _ => .unknown type⟩
    cases hinside
  | @known payload type hfits hparts ih =>
    by_cases hbox : ∃ content, payload = .boxed content
    · -- A box is no object, so it fits, and what counts is its content.
      obtain ⟨content, rfl⟩ := hbox
      have hnamed : type.isNamed = true := by
        rcases hfits with hfits | ⟨identity, state, hobject⟩
        · exact hfits _ rfl
        · cases hobject
      rw [wellMade_boxed_iff, ih content (.content content)]
      constructor
      · rintro ⟨-, hcontent⟩ identity state hinside
        rcases inside_boxed_iff.1 hinside with hobject | hinside
        · cases hobject
        · exact hcontent identity state hinside
      · intro hall
        refine ⟨hnamed, ?_⟩
        intro identity state hinside
        exact hall identity state (.box type hinside)
    · -- There is nothing inside: the value fits itself, or is an object of its declared class.
      have hplain : ∀ content, payload ≠ .boxed content :=
        fun content hcontent => hbox ⟨content, hcontent⟩
      rw [wellMade_iff_fits hplain]
      constructor
      · intro hpayload identity state hinside
        cases (inside_iff_eq hplain).1 hinside
        exact hpayload
      · intro hall
        rcases hfits with hfits | ⟨identity, state, hobject⟩
        · exact hfits _ rfl
        · cases hobject
          exact hall identity state (.self _)

/-! ## The library makes no other values -/

theorem Built.returned {form : Value} (h : value.Built) (hform : returnForm type value = .ok form) :
    form.Built := by
  unfold returnForm at hform
  split at hform
  · cases hform
    exact h
  · split at hform
    · cases hform
      exact h.boxed
    · cases hform

theorem closed_built : Closed Built where
  unknown := .unknown
  default := .default
  int := .int
  string := .string
  unboxed := .unboxed
  returned := .returned
  tracked h hfound := .part h (.field hfound)

end Value

/-- The context `root` reads `count` through reflection. -/
def Sample.getCount : World.Operation :=
  .act "root" (.call (.withArguments [.handle ⟨0, 0⟩ ⟨.localClass, count⟩, .unknown .object])
    Method.fieldGetSignature)

namespace World

/-- The value is in a register or slot of a context, or in a static field, or was read or assigned
there. -/
inductive Has (world : World) : Value → Prop
  | register {name : String} {context : Context} {value : Value} :
      world.contexts.get? name = some context → some value ∈ context.frame.registers.slots →
      Has world value
  | returnValue {name : String} {context : Context} {value : Value} :
      world.contexts.get? name = some context →
      context.frame.registers.returnValue = some value → Has world value
  | invokeResult {name : String} {context : Context} {value : Value} :
      world.contexts.get? name = some context →
      context.frame.registers.invokeResult = some value → Has world value
  | static {lineage : Lineage} {field : FieldId} {value : Value} :
      lineage ∈ world.lineages → lineage.static? field = some value → Has world value
  | history {lineage : Lineage} {step : StaticStep} {value : Value} :
      lineage ∈ world.lineages → step ∈ lineage.history → step.value? = some value →
      Has world value

/-- The values that can be made, those that are in the world after these operations, and those that
another operation with values that can be made answers there. -/
inductive Obtained (machine : Machine) (operations : List Operation) : Value → Prop
  | made {value : Value} : value.Built → Obtained machine operations value
  | held {value : Value} : (after machine operations).Has value → Obtained machine operations value
  | answered {operation : Operation} {value : Value} : operation.Holds Value.Built →
      (World.perform machine operation (after machine operations)).1 =
        some (.ok (.value (some value))) →
      Obtained machine operations value

variable {machine : Machine} {operations : List Operation} {value : Value}

theorem Holds.of_has {P : Value → Prop} {world : World} (h : world.Holds P)
    (hvalue : world.Has value) : P value := by
  cases hvalue with
  | register hname hslot => exact (h.contexts hname).slots _ hslot
  | returnValue hname hreturn => exact (h.contexts hname).returnValue _ hreturn
  | invokeResult hname hresult => exact (h.contexts hname).invokeResult _ hresult
  | static hlineage hstatic => exact (h.lineages _ hlineage).statics _ _ hstatic
  | history hlineage hstep hvalue => exact (h.lineages _ hlineage).history _ hstep _ hvalue

/-- Whatever is done in a world with values that can be made, by the methods on fields, by static
fields and their initialization, by initializers and by other methods that only make such values:
nothing comes of it but values that can be made. And such a value has a payload that may have its
declared type, and so has every value inside its boxes, just if none of them is an object whose
class is a primitive type, an array or void. -/
theorem payload_fits_iff_objects_have_classes (hmachine : machine.Holds Value.Built)
    (hoperations : ∀ operation ∈ operations, operation.Holds Value.Built)
    (hvalue : Obtained machine operations value) :
    value.Built ∧
      (value.WellMade ↔ ∀ identity content, (Value.object identity content).Inside value →
        content.runtimeClass.isNamed = true) := by
  have hworld := holds_after Value.closed_built hmachine hoperations
  have hbuilt : value.Built := by
    cases hvalue with
    | made h => exact h
    | held h => exact hworld.of_has h
    | answered hoperation hreply =>
      exact (hworld.perform Value.closed_built hmachine hoperation).2 _ hreply value rfl
  exact ⟨hbuilt, hbuilt.throughout.wellMade_iff⟩

/-- A static field is read through reflection, which boxes its value. -/
theorem payload_fits_iff_objects_have_classes_read :
    (Sample.machine Sample.baseWrites).Holds Value.Built ∧
    (∀ operation ∈ [Sample.getCount], operation.Holds Value.Built) ∧
    Obtained (Sample.machine Sample.baseWrites) [Sample.getCount] (.boxed (.int 5)) ∧
    (Value.int 5).boxed.WellMade := by
  have hmachine : (Sample.machine Sample.baseWrites).Holds Value.Built := by
    refine ⟨⟨?_, ?_⟩, ⟨nofun, nofun⟩, Method.holds_builtin⟩
    · intro type definition field value hfind hvalue
      rcases List.mem_pair.1 (List.mem_of_find?_eq_some hfind) with rfl | rfl
      · cases hvalue
      · have hcount := Table.mem_keys_of_get? hvalue
        cases List.mem_singleton.1 hcount
        cases hvalue
        exact .int 5
    · rintro _ type ⟨⟩
      unfold Sample.baseWrites
      split
      · refine ⟨.int 7, fun result _ => ?_⟩
        cases result <;> trivial
      · trivial
  have hoperations : ∀ operation ∈ [Sample.getCount], operation.Holds Value.Built := by
    intro operation hoperation
    cases List.mem_singleton.1 hoperation
    refine Registers.holds_withArguments fun value hvalue => ?_
    rcases List.mem_pair.1 hvalue with rfl | rfl
    · exact .handle _ _
    · exact .unknown _
  have hobtained : Obtained (Sample.machine Sample.baseWrites) [Sample.getCount]
      (.boxed (.int 5)) :=
    .answered (show (Operation.act "root" .readReturn).Holds Value.Built from trivial) rfl
  obtain ⟨-, hwellMade⟩ := payload_fits_iff_objects_have_classes hmachine hoperations hobtained
  refine ⟨hmachine, hoperations, hobtained, hwellMade.2 ?_⟩
  -- What is in the box is a number.
  rintro identity content (_ | ⟨_, hinside⟩)
  cases hinside

end World

namespace Value

/-- An object that is made with the class `[I` may not be kept where its own type is declared. -/
theorem object_of_array_not_wellMade :
    let array : Value := .object ⟨0, 0⟩ (.ofClass (.array .int))
    array.Built ∧ array.isKnown = true ∧ ¬ array.WellMade ∧
      StaticFields.checkWrite ⟨Sample.derived, "F", array.type⟩ array =
        .error (.typeMismatch array.type "object") := by
  refine ⟨.object _ nofun, rfl, fun h => ?_, rfl⟩
  cases h with
  | known hfits _ => cases hfits

end Value

end Dalvik
