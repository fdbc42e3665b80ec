import Dalvik.Proofs.Initialization.Nesting
import Dalvik.Proofs.Initialization.ReadYourWrites

/-!
# Assignments to classes that wait

While a class waits for the class that it extends, code of that one may assign its static fields.
The class gets the values that its fields start with afterwards, so such an assignment is lost when
the other class succeeds, and stays when it fails.
-/

namespace Dalvik

open History

namespace StaticFields

variable {statics : StaticFields} {lineage later : Lineage} {type parent : TypeDescriptor}
  {field : FieldId}

theorem Step.isOpen_of_wrote {value : Value} (hs : statics.Step lineage later)
    (h : later.history = .wrote field value :: lineage.history) : Open lineage.history := by
  cases hs with
  | write _ _ _ _ hopen => exact hopen
  | _ => simp at h

theorem Step.isOpen_of_read {value : Value} (hs : statics.Step lineage later)
    (h : later.history = .read field value :: lineage.history) : Open lineage.history := by
  cases hs with
  | read _ _ hopen => exact hopen
  | _ => simp at h

/-- Where code may run, a class that is being initialized and has no values waits for the class that
it extends. -/
theorem Nested.waiting (h : Nested statics lineage) (hc : Coherent statics lineage)
    (hopen : Open lineage.history) (hp : type ∈ pending lineage.history)
    (hseeded : .seeded type ∉ lineage.history) :
    ∃ parent, statics.program.parent? type = some parent ∧ Called parent type lineage.history ∧
      parent ∈ pending lineage.history := by
  obtain ⟨inner, outer, hsplit⟩ := List.append_of_mem hp
  rcases inner.eq_nil_or_concat with rfl | ⟨inner, parent, rfl⟩
  · exact absurd (hc.seeded_of_isOpen hopen (by simp [hsplit])) hseeded
  · have hadjacent : [parent, type] <:+: pending lineage.history :=
      ⟨inner, outer, by simp [hsplit]⟩
    have hcalled := h.called hadjacent hseeded
    exact ⟨parent, h.extends_parent hcalled, hcalled, hadjacent.subset List.mem_cons_self⟩

/-- Where code may run, a class has its values if the class that it waited for has succeeded. -/
theorem Nested.seeded_of_succeeded (h : Nested statics lineage) (hc : Coherent statics lineage)
    (hopen : Open lineage.history) (hcalled : Called parent type lineage.history)
    (hended : .ended parent true ∈ lineage.history) : .seeded type ∈ lineage.history :=
  (h.resumed hcalled hended).elim id (hc.seeded_of_isOpen hopen)

/-- A class that waits gets its values exactly if the class that it waits for succeeds. -/
theorem Reachable.seeded_iff_succeeded (h : statics.Reachable lineage)
    (hopen : Open lineage.history) {since earlier : List StaticStep} {value : Value}
    (hh : lineage.history = since ++ .wrote field value :: earlier) (hp : type ∈ pending earlier)
    (hseeded : .seeded type ∉ earlier) (hparent : statics.program.parent? type = some parent) :
    .seeded type ∈ since ↔ .ended parent true ∈ since := by
  obtain ⟨before, after, hbefore, rfl, hs, hafter⟩ := h.cut hh
  obtain ⟨other, hother, hcalled, hpending⟩ :=
    hbefore.nested.waiting hbefore.coherent (hs.isOpen_of_wrote hafter) hp hseeded
  obtain rfl : parent = other := Option.some.inj (hparent.symm.trans hother)
  have hsuffix : before.history <:+ lineage.history := by
    rw [hh]
    exact (List.suffix_cons ..).trans (List.suffix_append ..)
  -- The class that is extended was being initialized when the field was assigned.
  have hended : .ended parent true ∉ before.history := fun hm => by
    have hlife := hbefore.coherent.lives parent
    simp only [hpending, decide_true] at hlife
    exact hlife.not_ended true (mem_life.2 ⟨hm, rfl⟩)
  have hmem : ∀ {step : StaticStep}, step ∉ before.history → step ≠ .wrote field value →
      (step ∈ lineage.history ↔ step ∈ since) := by
    intro step hstep hne
    simp [hh, hstep, hne]
  rw [← hmem hseeded (by simp), ← hmem hended (by simp)]
  exact ⟨h.nested.ready (hcalled.mono hsuffix),
    h.nested.seeded_of_succeeded h.coherent hopen (hcalled.mono hsuffix)⟩

end StaticFields

namespace Sample

/-- What happens before the initializer of `base` assigns `count`, the latest in front. -/
def beforeWrite : List StaticStep :=
  [.started base, .seeded base, .began base, .began derived]

/-- What happens from then on until `count` is read for the first time. -/
def sinceWrite : List StaticStep :=
  [.ended derived true, .started derived, .seeded derived, .ended base true]

end Sample

namespace World

open StaticFields

/-- A static field is assigned while its class is being initialized and does not have its values
yet, and read later with no assignment in between. The read sees what was assigned exactly if the
class that is extended has not succeeded in between, or the field happens to start with the same
value. -/
theorem update_while_waiting (machine : Machine) (operations : List Operation) {number : Nat}
    {lineage : Lineage} (h : (after machine operations).lineages[number]? = some lineage)
    {field : FieldId} {definition : ClassDefinition} {parent : TypeDescriptor}
    (hfind : machine.program.find? field.owner = some definition)
    (hfield : field ∈ definition.staticFields.map (·.id))
    (hparent : definition.parent = some parent) {later since earlier : List StaticStep}
    {seen assigned : Value}
    (hh : lineage.history =
      later ++ .read field seen :: (since ++ .wrote field assigned :: earlier))
    (hwaiting : field.owner ∈ pending earlier) (hseeded : .seeded field.owner ∉ earlier)
    (hsince : ∀ value, .wrote field value ∉ since) :
    (seen = assigned ↔
      .ended parent true ∉ since ∨ definition.startValue field = assigned) ∧
    (.ended parent true ∈ since → seen = definition.startValue field) := by
  have hreachable := (sound_after machine operations).reachable lineage (List.mem_of_getElem? h)
  obtain ⟨before, after, hbefore, hhistory, hs, hafter⟩ := hreachable.cut hh
  have hp : machine.statics.program.parent? field.owner = some parent := by
    rw [Program.parent?, show machine.statics.program.find? field.owner = _ from hfind]
    exact hparent
  have hiff := hbefore.seeded_iff_succeeded (hs.isOpen_of_read hafter) hhistory hwaiting hseeded hp
  have hseen := hs.value_of_read hafter
  rw [hbefore.static?_eq_held hfind hfield, hhistory] at hseen
  by_cases hended : .ended parent true ∈ since
  · rw [held_of_overwritten (hiff.2 hended) hsince, Option.getD_some] at hseen
    exact ⟨by simp [hended, hseen], fun _ => hseen⟩
  · rw [held_of_wrote (fun hm => hended (hiff.1 hm)) hsince, Option.getD_some] at hseen
    exact ⟨by simp [hended, hseen], fun hm => absurd hm hended⟩

/-- The initializer of the class that is extended assigns 7 and succeeds, and 5 is read then. -/
theorem assigned_while_waiting_and_lost :
    (∃ later seen since earlier, Sample.overwritten.lineages[0]?.map (·.history) =
      some (later ++ .read Sample.count seen ::
        (since ++ .wrote Sample.count (.int 7) :: earlier)) ∧
      Sample.derived ∈ pending earlier ∧ .seeded Sample.derived ∉ earlier ∧
      (∀ value, .wrote Sample.count value ∉ since) ∧ seen ≠ .int 7) ∧
    (perform (Sample.machine Sample.baseWrites) Sample.readCount Sample.overwritten).1 =
      some (.ok (.value (some (.int 5)))) := by
  refine ⟨⟨[.read Sample.count (.int 5)], .int 5, Sample.sinceWrite, Sample.beforeWrite, rfl,
    by decide, ?_, ?_, ?_⟩, rfl⟩
  · simp [Sample.beforeWrite, Sample.derived, Sample.base]
  · simp [Sample.sinceWrite]
  · simp [Value.int, Value.ofContent]

/-- The same lineage: the class that is extended succeeded before the read. -/
theorem update_while_waiting_overwritten :
    ∃ definition, Sample.program.find? Sample.derived = some definition ∧
      (Value.int 5 = .int 7 ↔ .ended Sample.base true ∉ Sample.sinceWrite ∨
        definition.startValue Sample.count = .int 7) ∧
      (.ended Sample.base true ∈ Sample.sinceWrite →
        Value.int 5 = definition.startValue Sample.count) := by
  have h : Sample.overwritten.lineages[0]? = some _ := rfl
  have hh : (Sample.overwritten.lineage 0).history = [.read Sample.count (.int 5)] ++
      .read Sample.count (.int 5) ::
        (Sample.sinceWrite ++ .wrote Sample.count (.int 7) :: Sample.beforeWrite) := rfl
  refine ⟨_, rfl, update_while_waiting (Sample.machine Sample.baseWrites) _ h rfl
    (List.mem_singleton.2 rfl) rfl hh (by decide) ?_ ?_⟩
  · simp [Sample.beforeWrite, Sample.derived, Sample.base, Sample.count]
  · simp [Sample.sinceWrite]

end World

end Dalvik
