import Dalvik.Proofs.Initialization.Worlds

/-!
# Initializers start at most once

A class is marked before anything else is done about it, and the mark is never taken away. So along
the history of a lineage, which a fork shares up to the fork, no initializer starts twice, however
initializations nest, fail, and are brought about.
-/

namespace Dalvik

open History StaticFields

variable {statics : StaticFields} {lineage later : Lineage}

/-- An initializer starts only when it has not started before. -/
theorem StaticFields.Step.nodup_startings (hs : statics.Step lineage later)
    (h : (startings lineage.history).Nodup) : (startings later.history).Nodup := by
  cases hs with
  | @start type hcode htop hlife =>
    refine List.nodup_cons.2 ⟨fun hm => ?_, h⟩
    -- Before the initializer starts, the life of its class has come as far as the values.
    have hstarted : .started type ∈ life type lineage.history :=
      mem_life.2 ⟨mem_startings.1 hm, rfl⟩
    simp [hlife] at hstarted
  | _ => simpa [startings, StaticStep.starting?, List.filterMap_cons] using h

theorem StaticFields.Reachable.nodup_startings (h : statics.Reachable lineage) :
    (startings lineage.history).Nodup :=
  h.induct (fun _ => List.nodup_nil) fun _ _ _ hn hs => hs.nodup_startings hn

namespace World

/-- Whatever is done, the initializer of a class starts at most once in the history of a lineage,
and what is marked stays marked. A fork goes on from the history and the marks of its origin. -/
theorem initializers_start_at_most_once (machine : Machine) (operations more : List Operation)
    {number : Nat} {lineage : Lineage}
    (h : (after machine operations).lineages[number]? = some lineage) :
    (startings lineage.history).Nodup ∧
    (∀ type, lineage.isInitialized type = true ↔
      .began type ∈ lineage.history ∨ .foreign type ∈ lineage.history) ∧
    (∃ later, (after machine (operations ++ more)).lineages[number]? = some later ∧
      lineage.history <:+ later.history ∧
      ∀ type, lineage.isInitialized type = true → later.isInitialized type = true) ∧
    ∀ origin copy context, (after machine operations).contexts.get? origin = some context →
      context.lineage = number →
      ∃ supply, (after machine (operations ++ [.fork origin copy])).lineages[
          (after machine operations).lineages.length]? = some { lineage with supply } ∧
        (after machine (operations ++ [.fork origin copy])).contexts.get? copy =
          some { context with lineage := (after machine operations).lineages.length } := by
  have hreachable := (sound_after machine operations).reachable lineage (List.mem_of_getElem? h)
  refine ⟨hreachable.nodup_startings, hreachable.coherent.marked, ?_, ?_⟩
  · obtain ⟨later, hlater, hadvances⟩ := evolves_after machine operations more number lineage h
    exact ⟨later, hlater, hadvances.steps.history, fun _ => hadvances.isInitialized⟩
  · rintro origin copy context horigin rfl
    exact after_fork machine operations copy horigin h

/-- The initializer of a class fails while a class is waiting for it; then the lineage is forked. -/
theorem initializers_start_at_most_once_failing :
    startings ((after (Sample.machine Sample.baseFails)
      [Sample.readCount, Sample.readCount, .fork "root" "copy"]).lineage 1).history =
        [Sample.base] ∧
    [Sample.base].Nodup :=
  have h : (after (Sample.machine Sample.baseFails)
      [Sample.readCount, Sample.readCount, .fork "root" "copy"]).lineages[1]? = some _ := rfl
  ⟨rfl, (initializers_start_at_most_once _ _ [] h).1⟩

end World

end Dalvik
