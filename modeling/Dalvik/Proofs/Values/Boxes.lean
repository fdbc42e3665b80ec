import Dalvik.Proofs.Values.Payloads

/-!
# Boxes never nest

A method on fields puts its result into a box only if that is not declared as a reference to any
object, and every box is declared so. The method looks at the outermost declared type alone, so that
no box ends up in another one is not up to a single call: it is an invariant of all places where
values are kept, those inside of objects and boxes included.
-/

namespace Dalvik

open Run

namespace Value

/-- The value is in a box. -/
def isBoxed : Value → Bool
  | known (.boxed _) _ => true
  | _ => false

/-- If the value is a box, it is declared as a reference to any object, and what is inside is known
and is no box. -/
def BoxNormal : Value → Prop
  | known (.boxed content) type => type = .object ∧ content.isKnown = true ∧ content.isBoxed = false
  | _ => True

variable {P : Value → Prop} {payload : Payload} {type : TypeDescriptor} {value : Value}

/-! ## Boxing and unboxing -/

theorem unboxed_of_not_boxed (h : value.isBoxed = false) : value.unboxed = value := by
  unfold unboxed
  split
  · cases h
  · rfl

theorem boxed_of_known (h : value.isKnown = true) : value.boxed = .known (.boxed value) .object := by
  cases value with
  | known payload type => rfl
  | unknown type => cases h

theorem isBoxed_iff :
    value.isBoxed = true ↔ ∃ content type, value = .known (.boxed content) type := by
  constructor
  · intro h
    unfold isBoxed at h
    split at h
    · exact ⟨_, _, rfl⟩
    · cases h
  · intro h
    obtain ⟨content, type, rfl⟩ := h
    rfl

theorem BoxNormal.isBoxed_unboxed (h : value.BoxNormal) : value.unboxed.isBoxed = false := by
  by_cases hboxed : value.isBoxed = true
  · obtain ⟨content, type, rfl⟩ := isBoxed_iff.1 hboxed
    exact h.2.2
  · rw [Bool.not_eq_true] at hboxed
    rw [unboxed_of_not_boxed hboxed]
    exact hboxed

/-- Only what is declared as a reference to any object is a box. -/
theorem BoxNormal.not_boxed_of_type (h : value.BoxNormal) (htype : value.type ≠ .object) :
    value.isBoxed = false := by
  by_contra hboxed
  rw [Bool.not_eq_false] at hboxed
  obtain ⟨content, type, rfl⟩ := isBoxed_iff.1 hboxed
  exact htype h.1

theorem BoxNormal.boxed (h : value.isBoxed = false) : value.boxed.BoxNormal := by
  cases value with
  | known payload type => exact ⟨rfl, rfl, h⟩
  | unknown type => trivial

/-- A payload without parts is no box. -/
theorem boxNormal_of_plain (hplain : ∀ part, ¬ payload.Part part) :
    (known payload type).BoxNormal := by
  cases payload with
  | boxed content => exact absurd (.content content) (hplain content)
  | _ => trivial

/-! ## What the library makes -/

/-- To be closed throughout, a property has to hold of what has no parts, and to be kept where a
method returns a value. -/
theorem closed_throughout (hunknown : ∀ type, P (.unknown type))
    (hplain : ∀ payload type, (∀ part, ¬ payload.Part part) → P (.known payload type))
    (hboxed : ∀ value, P value → value.type ≠ .object → P value.boxed) :
    Closed (Throughout P) where
  unknown type := .unknown (hunknown type)
  default type := by
    have hnothing {payload : Payload} {type : TypeDescriptor}
        (h : ∀ part, ¬ payload.Part part) : (known payload type).Throughout P :=
      throughout_of_plain (hplain payload type h) h
    cases type with
    | void => exact .unknown (hunknown _)
    | named name => exact hnothing nofun
    | array component => exact hnothing nofun
    | primitive kind => cases kind <;> exact hnothing nofun
  int value := throughout_of_plain (hplain _ _ nofun) nofun
  string text := throughout_of_plain (hplain _ _ nofun) nofun
  unboxed := .unboxed
  returned {type value form} h hform := by
    unfold returnForm at hform
    split at hform
    · cases hform
      exact h
    · rename_i htype
      split at hform
      · rename_i hobject
        cases hform
        have hreturns : type = .object := by simpa [TypeDescriptor.isObject] using hobject
        exact h.boxed (hboxed value h.self (hreturns ▸ htype))
      · cases hform
  tracked h hfound := h.part (.field hfound)

/-- A result is boxed only if its declared type tells that it is no box. -/
theorem closed_boxNormal : Closed (Throughout BoxNormal) := by
  apply closed_throughout
  · intro type
    trivial
  · intro payload type hplain
    exact boxNormal_of_plain hplain
  · intro value hnormal htype
    exact .boxed (hnormal.not_boxed_of_type htype)

end Value

namespace World

/-- The value is in the world after these operations, or is answered there to another operation
with values that have the property; or it is part of such a value, in a box or in an object. -/
inductive Met (P : Value → Prop) (machine : Machine) (operations : List Operation) : Value → Prop
  | held {value : Value} : (after machine operations).Has value → Met P machine operations value
  | answered {operation : Operation} {value : Value} : operation.Holds P →
      (World.perform machine operation (after machine operations)).1 =
        some (.ok (.value (some value))) →
      Met P machine operations value
  | part {payload : Payload} {type : TypeDescriptor} {value : Value} :
      Met P machine operations (.known payload type) → payload.Part value →
      Met P machine operations value

variable {machine : Machine} {operations : List Operation} {value : Value}

theorem Met.throughout {P : Value → Prop} (hclosed : Value.Closed (Value.Throughout P))
    (hmachine : machine.Holds (Value.Throughout P))
    (hoperations : ∀ operation ∈ operations, operation.Holds (Value.Throughout P))
    (h : Met (Value.Throughout P) machine operations value) : value.Throughout P := by
  have hworld := holds_after hclosed hmachine hoperations
  induction h with
  | held hvalue => exact hworld.of_has hvalue
  | answered hoperation hreply =>
    exact (hworld.perform hclosed hmachine hoperation).2 _ hreply _ rfl
  | part _ hpart ih => exact ih.part hpart

/-- If no box is in a box at the start, wherever values are kept or come from, none ever is: every
value that is met, in a register, a slot, a static field, an object or a box, or as an answer, is no
box once it was unboxed, however often results of reads through reflection were kept and read again.
-/
theorem boxes_never_nest (hmachine : machine.Holds (Value.Throughout Value.BoxNormal))
    (hoperations : ∀ operation ∈ operations, operation.Holds (Value.Throughout Value.BoxNormal))
    (hvalue : Met (Value.Throughout Value.BoxNormal) machine operations value) :
    value.BoxNormal ∧ value.unboxed.isBoxed = false := by
  have hnormal := (hvalue.throughout Value.closed_boxNormal hmachine hoperations).self
  exact ⟨hnormal, hnormal.isBoxed_unboxed⟩

end World

namespace Sample

/-- A static field of `derived` for a reference to any object. -/
def kept : FieldId := ⟨derived, "K", .object⟩

/-- The class `derived` with the field `kept`. -/
def keeping : Program where
  definitions := [.withField (.ofName derived) ⟨"K", .object, .publicFlag ||| .staticFlag⟩]
  distinct := by decide

/-- The context `root` puts what a read has boxed into `kept`, and reads that through reflection. -/
def keepAndGet : List World.Operation :=
  [.act "root" (.writeStatic kept (.boxed (.int 5))),
    .act "root" (.call (.withArguments [.handle ⟨0, 0⟩ ⟨.localClass, kept⟩])
      Method.fieldGetSignature)]

end Sample

namespace World

/-- A box is kept in a static field and read through reflection: it is returned as it is. -/
theorem boxes_never_nest_kept :
    (Machine.ofProgram Sample.keeping).Holds (Value.Throughout Value.BoxNormal) ∧
    (∀ operation ∈ Sample.keepAndGet, operation.Holds (Value.Throughout Value.BoxNormal)) ∧
    Met (Value.Throughout Value.BoxNormal) (Machine.ofProgram Sample.keeping) Sample.keepAndGet
      (.boxed (.int 5)) ∧
    (Value.int 5).boxed.unboxed.isBoxed = false := by
  have hmachine : (Machine.ofProgram Sample.keeping).Holds (Value.Throughout Value.BoxNormal) := by
    refine ⟨⟨?_, nofun⟩, ⟨nofun, nofun⟩, Method.holds_builtin⟩
    intro type definition field value hfind hvalue
    cases List.mem_singleton.1 (List.mem_of_find?_eq_some hfind)
    cases hvalue
  have hint : (Value.int 5).Throughout Value.BoxNormal := Value.closed_boxNormal.int 5
  have hoperations : ∀ operation ∈ Sample.keepAndGet,
      operation.Holds (Value.Throughout Value.BoxNormal) := by
    intro operation hoperation
    rcases List.mem_pair.1 hoperation with rfl | rfl
    · exact hint.boxed (.boxed rfl)
    · apply Registers.holds_withArguments
      intro value hvalue
      cases List.mem_singleton.1 hvalue
      exact Value.throughout_of_plain trivial nofun
  have hmet : Met (Value.Throughout Value.BoxNormal) (Machine.ofProgram Sample.keeping)
      Sample.keepAndGet (.boxed (.int 5)) :=
    .answered (show (Operation.act "root" .readReturn).Holds _ from trivial) rfl
  exact ⟨hmachine, hoperations, hmet, (boxes_never_nest hmachine hoperations hmet).2⟩

end World

end Dalvik
