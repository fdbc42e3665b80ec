import Dalvik.Proofs.Initialization.Nesting
import Dalvik.Proofs.Initialization.ReadYourWrites

/-!
# Classes without values

A class is marked before the class that it extends is initialized. If that one fails then, the class
stays marked without its static fields ever getting the values that they start with. This is the
only way in which it happens: outside of initializations, a marked local class has its values unless
it was cut short.
-/

namespace Dalvik

open History

namespace StaticFields

variable {statics : StaticFields} {lineage later : Lineage} {type : TypeDescriptor}

theorem Step.cutShort_of_failed (hs : statics.Step lineage later)
    (h : later.history = .ended type false :: lineage.history) :
    .seeded type ∈ lineage.history ∨ statics.program.CutShort type lineage.history := by
  cases hs with
  | stop succeeded htop hlife =>
    obtain ⟨rfl, -⟩ := StaticStep.ended.inj (List.cons.inj h).1
    exact .inl (mem_of_life_eq hlife (by simp))
  | abandon htop hlife hcut =>
    obtain ⟨rfl, -⟩ := StaticStep.ended.inj (List.cons.inj h).1
    exact .inr hcut
  | _ => simp at h

/-- A class that is not being initialized has its values, or was cut short. -/
theorem Reachable.seeded_or_cutShort (h : statics.Reachable lineage)
    (hbegan : .began type ∈ lineage.history) (hp : type ∉ pending lineage.history) :
    .seeded type ∈ lineage.history ∨ statics.program.CutShort type lineage.history := by
  have hlife := h.coherent.lives type
  simp only [hp, decide_false] at hlife
  rcases hlife.seeded_or_failed (mem_life.2 ⟨hbegan, rfl⟩) with hseeded | hfailed
  · exact .inl (mem_life.1 hseeded).1
  · obtain ⟨since, earlier, hh⟩ := List.append_of_mem (mem_life.1 hfailed).1
    obtain ⟨before, after, -, rfl, hs, hafter⟩ := h.cut hh
    have hsuffix : before.history <:+ lineage.history := by
      rw [hh]
      exact (List.suffix_cons ..).trans (List.suffix_append ..)
    exact (hs.cutShort_of_failed hafter).imp (fun hm => hsuffix.subset hm) (·.mono hsuffix)

/-- A class that has its values was not cut short. -/
theorem Nested.not_cutShort_of_seeded (h : Nested statics lineage) (hc : Coherent statics lineage)
    (hs : .seeded type ∈ lineage.history) : ¬ statics.program.CutShort type lineage.history := by
  intro hcut
  obtain ⟨parent, -, hcalled, hfailed⟩ := hcut
  exact hc.not_failed_of_succeeded (h.ready hcalled hs) hfailed

end StaticFields

namespace World

open StaticFields

/-- Between two things that are done, a marked local class lacks the value of a static field exactly
if it was cut short by the failure of the class that it extends and the field was not assigned; a
field of a class that was cut short holds what was assigned to it last. A read that succeeds answers
with what the field holds, and with the default of its type where that is missing, whatever value it
was declared to start with. -/
theorem marked_class_holds_values_iff (machine : Machine) (operations : List Operation)
    {number : Nat} {lineage : Lineage}
    (h : (after machine operations).lineages[number]? = some lineage) {field : FieldId}
    {definition : ClassDefinition} (hfind : machine.program.find? field.owner = some definition)
    (hfield : field ∈ definition.staticFields.map (·.id))
    (hmarked : lineage.isInitialized field.owner = true) :
    ((lineage.static? field).isSome = true ↔
      ¬ machine.program.CutShort field.owner lineage.history ∨
        ∃ value, .wrote field value ∈ lineage.history) ∧
    (machine.program.CutShort field.owner lineage.history →
      lineage.static? field = lastWrite field lineage.history) ∧
    ∀ declared name context, machine.statics.resolve field = .ok declared →
      (after machine operations).contexts.get? name = some context → context.lineage = number →
      (perform machine (.act name (.readStatic field)) (after machine operations)).1 =
        some (.ok (.value (some ((lineage.static? field).getD (.default field.type))))) := by
  have hm := List.mem_of_getElem? h
  have hreachable := (sound_after machine operations).reachable lineage hm
  have hidle : pending lineage.history = [] := (sound_after machine operations).idle lineage hm
  -- The class is local, so it is not marked as a foreign one.
  have hbegan : .began field.owner ∈ lineage.history := by
    refine ((hreachable.coherent.marked field.owner).1 hmarked).resolve_right fun hforeign => ?_
    have hlocal := hreachable.coherent.foreign_not_local field.owner hforeign
    rw [Program.isLocal, show machine.statics.program.find? field.owner = _ from hfind] at hlocal
    cases hlocal
  have hcut : machine.program.CutShort field.owner lineage.history →
      .seeded field.owner ∉ lineage.history := fun hcut hseeded =>
    hreachable.nested.not_cutShort_of_seeded hreachable.coherent hseeded hcut
  have hheld := hreachable.static?_eq_held hfind hfield
  refine ⟨?_, fun h => hheld.trans (held_of_not_seeded (hcut h)), ?_⟩
  · rcases hreachable.seeded_or_cutShort hbegan (by simp [hidle]) with hseeded | hshort
    · obtain ⟨since, earlier, hh⟩ := List.append_of_mem hseeded
      have hnot := hreachable.nested.not_cutShort_of_seeded hreachable.coherent hseeded
      simp only [hreachable.static?_of_seeded hfind hfield hh, Option.isSome_some, true_iff]
      exact .inl hnot
    · rw [hheld, held_of_not_seeded (hcut hshort), lastWrite_isSome]
      exact (or_iff_right (not_not_intro hshort)).symm
  · rintro declared name context hdeclared hname rfl
    rw [← lineage_eq h] at hmarked ⊢
    exact perform_read hname hdeclared hmarked

/-- The class that is extended fails first: the field, declared to start with 5, is read as 0. -/
theorem derived_read_as_default_after_failure :
    (Sample.failed.lineages[0]?.map (·.isInitialized Sample.derived)) = some true ∧
    (Sample.failed.lineages[0]?.map (·.static? Sample.count)) = some none ∧
    (Sample.failed.lineages[0]?.map fun lineage => pending lineage.history) = some [] ∧
    (Sample.program.find? Sample.derived).map (·.startValue Sample.count) = some (.int 5) ∧
    (perform (Sample.machine Sample.baseFails) Sample.readCount Sample.failed).1 =
      some (.ok (.value (some (.int 0)))) :=
  ⟨rfl, rfl, rfl, rfl, rfl⟩

/-- The same lineage: the class was cut short and nothing was assigned. -/
theorem marked_class_holds_values_iff_failed :
    ((Sample.failed.lineage 0).static? Sample.count).isSome = true ↔
      ¬ Sample.program.CutShort Sample.derived (Sample.failed.lineage 0).history ∨
        ∃ value, .wrote Sample.count value ∈ (Sample.failed.lineage 0).history :=
  have h : Sample.failed.lineages[0]? = some _ := rfl
  (marked_class_holds_values_iff _ _ h rfl (List.mem_singleton.2 rfl) rfl).1

end World

end Dalvik
