import Dalvik.Proofs.Descriptors.Sorting
import Dalvik.Proofs.Initialization.Worlds

/-!
# The list of the initialized classes

A lineage is asked for its marked classes as a list. They are kept as a set, which may be visited in
any order, and the list is what was visited, sorted. No step marks a class twice, so every class is
visited once. Hence the list depends on which classes are marked, and on nothing else.
-/

namespace Dalvik

namespace Lineage

/-- The set of the marked classes is visited in this order, each of them once. -/
structure IsVisit (lineage : Lineage) (visited : List TypeDescriptor) : Prop where
  nodup : visited.Nodup
  mem_iff : ∀ type, type ∈ visited ↔ lineage.isInitialized type = true

/-- The list of the initialized classes is in ascending order and has each class once whose
initialization has begun. It is the only such list, and comes of every visit to the set. -/
structure Canonical (lineage : Lineage) : Prop where
  ascending : lineage.initializedClasses.Pairwise TypeDescriptor.Precedes
  once : ∀ type, lineage.initializedClasses.count type =
    if lineage.isInitialized type = true then 1 else 0
  marked : ∀ type, lineage.isInitialized type = true ↔
    .began type ∈ lineage.history ∨ .foreign type ∈ lineage.history
  only : ∀ types : List TypeDescriptor, types.Pairwise TypeDescriptor.Precedes →
    (∀ type, type ∈ types ↔ lineage.isInitialized type = true) →
    types = lineage.initializedClasses
  kept : lineage.IsVisit lineage.initialized
  visits : ∀ visited, lineage.IsVisit visited →
    TypeDescriptor.sort visited = lineage.initializedClasses

variable {lineage other : Lineage} {type : TypeDescriptor}
  {visited visited' : List TypeDescriptor}

theorem isInitialized_iff_mem : lineage.isInitialized type = true ↔ type ∈ lineage.initialized :=
  List.contains_iff_mem

theorem nodup_mark (h : lineage.initialized.Nodup) : (lineage.mark type).initialized.Nodup := by
  unfold mark
  split
  next => exact h
  next hnew =>
    rw [isInitialized_iff_mem] at hnew
    exact h.append (List.nodup_singleton type) (List.disjoint_singleton.2 hnew)

/-- Two visits to sets of the same classes differ in the order only. -/
theorem IsVisit.perm (h : lineage.IsVisit visited) (h' : other.IsVisit visited')
    (hsame : ∀ type, lineage.isInitialized type = other.isInitialized type) :
    visited.Perm visited' :=
  (List.perm_ext_iff_of_nodup h.nodup h'.nodup).2 fun type => by
    rw [h.mem_iff, h'.mem_iff, hsame]

/-- Sorting makes one list of all visits to sets of the same classes. -/
theorem IsVisit.sort_eq (h : lineage.IsVisit visited) (h' : other.IsVisit visited')
    (hsame : ∀ type, lineage.isInitialized type = other.isInitialized type) :
    TypeDescriptor.sort visited = TypeDescriptor.sort visited' := by
  refine TypeDescriptor.eq_of_ascending (TypeDescriptor.ascending_sort h.nodup)
    (TypeDescriptor.ascending_sort h'.nodup) fun type => ?_
  have hperm := h.perm h' hsame
  rw [(TypeDescriptor.sort_perm visited).mem_iff, (TypeDescriptor.sort_perm visited').mem_iff,
    hperm.mem_iff]

end Lineage

namespace StaticFields

variable {statics : StaticFields} {lineage later : Lineage}

/-- No step marks a class that is marked. -/
theorem Step.nodup_initialized (hs : statics.Step lineage later)
    (h : lineage.initialized.Nodup) : later.initialized.Nodup := by
  cases hs with
  | enter => exact Lineage.nodup_mark h
  | foreign => exact Lineage.nodup_mark h
  | seed => simpa using h
  | _ => exact h

theorem Reachable.isVisit_initialized (h : statics.Reachable lineage) :
    lineage.IsVisit lineage.initialized where
  nodup := h.induct (I := fun lineage => lineage.initialized.Nodup) (fun _ => List.nodup_nil)
    fun _ _ _ hn hs => hs.nodup_initialized hn
  mem_iff _ := Lineage.isInitialized_iff_mem.symm

theorem Reachable.canonical (h : statics.Reachable lineage) : lineage.Canonical := by
  have hvisit := h.isVisit_initialized
  have hascending : lineage.initializedClasses.Pairwise TypeDescriptor.Precedes :=
    TypeDescriptor.ascending_sort hvisit.nodup
  have hmem (type : TypeDescriptor) :
      type ∈ lineage.initializedClasses ↔ lineage.isInitialized type = true :=
    (TypeDescriptor.sort_perm _).mem_iff.trans (hvisit.mem_iff type)
  refine ⟨hascending, fun type => ?_, h.coherent.marked, fun types htypes hall => ?_, hvisit,
    fun visited hvisited => hvisited.sort_eq hvisit fun _ => rfl⟩
  · rw [(TypeDescriptor.nodup_of_ascending hascending).count]
    simp only [hmem]
  · refine TypeDescriptor.eq_of_ascending htypes hascending fun type => ?_
    rw [hall, hmem]

end StaticFields

namespace Sample

/-- The world after the two classes were initialized, the one that extends nothing first. -/
def upward : World := .after (machine baseFails)
  [.act "root" (.initializeOnce base), .act "root" (.initializeOnce derived)]

end Sample

namespace World

open StaticFields TypeDescriptor

/-- Types are compared by their declared order, which is a strict total order; only equal types
compare as equal. Whatever was done in a world, each of its lineages reports the classes that were
initialized in it exactly once and in ascending order, and so it did in every state that it, or the
one that it was forked from, has been in. Hence lineages of any two worlds in which the same classes
were initialized report the same list, and would do so however their sets were visited. -/
theorem initialized_classes_canonical :
    IsStrictTotalOrder TypeDescriptor Precedes ∧
    (∀ a b : TypeDescriptor,
      (a.compare b = .lt ↔ a.Precedes b) ∧ (a.compare b = .eq ↔ a = b) ∧
        (a.compare b = .gt ↔ b.Precedes a)) ∧
    ∀ (machine : Machine) (operations : List Operation) (number : Nat) (lineage : Lineage),
      (after machine operations).lineages[number]? = some lineage →
      lineage.Canonical ∧
      (∀ moment, machine.statics.Reachable moment → moment.history <:+ lineage.history →
        moment.Canonical) ∧
      ∀ (machine' : Machine) (operations' : List Operation) (number' : Nat) (lineage' : Lineage),
        (after machine' operations').lineages[number']? = some lineage' →
        (∀ type, lineage.isInitialized type = lineage'.isInitialized type) →
        lineage.initializedClasses = lineage'.initializedClasses ∧
        ∀ visited visited', lineage.IsVisit visited → lineage'.IsVisit visited' →
          sort visited = sort visited' := by
  refine ⟨inferInstance, fun a b => ⟨compare_eq_lt_iff, Std.LawfulEqCmp.compare_eq_iff_eq,
    compare_eq_gt_iff⟩, fun machine operations number lineage h => ?_⟩
  have hreachable := (sound_after machine operations).reachable lineage (List.mem_of_getElem? h)
  refine ⟨hreachable.canonical, fun moment hmoment _ => hmoment.canonical, ?_⟩
  intro machine' operations' number' lineage' h' hsame
  have hreachable' :=
    (sound_after machine' operations').reachable lineage' (List.mem_of_getElem? h')
  refine ⟨hreachable.isVisit_initialized.sort_eq hreachable'.isVisit_initialized hsame, ?_⟩
  intro visited visited' hvisit hvisit'
  exact hvisit.sort_eq hvisit' hsame

/-- One lineage in which the class that extends the other was marked first, and one in which it was
marked last. -/
theorem initialized_classes_canonical_reordered :
    (Sample.failed.lineage 0).initialized = [Sample.derived, Sample.base] ∧
    (Sample.upward.lineage 0).initialized = [Sample.base, Sample.derived] ∧
    (Sample.failed.lineage 0).initializedClasses = [Sample.base, Sample.derived] ∧
    (Sample.failed.lineage 0).initializedClasses = (Sample.upward.lineage 0).initializedClasses := by
  have h : Sample.failed.lineages[0]? = some _ := rfl
  have h' : Sample.upward.lineages[0]? = some _ := rfl
  obtain ⟨-, -, hlineages⟩ := initialized_classes_canonical
  obtain ⟨hcanonical, -, hsame⟩ := hlineages _ _ _ _ h
  have hascending : [Sample.base, Sample.derived].Pairwise Precedes :=
    List.pairwise_pair.2 (.texts (by decide))
  have hmarks (type : TypeDescriptor) : (Sample.failed.lineage 0).isInitialized type =
      (Sample.upward.lineage 0).isInitialized type := by
    show [Sample.derived, Sample.base].contains type = [Sample.base, Sample.derived].contains type
    simp [Bool.or_comm]
  refine ⟨rfl, rfl, (hcanonical.only _ hascending fun type => ?_).symm, ?_⟩
  · show type ∈ _ ↔ [Sample.derived, Sample.base].contains type = true
    simp [or_comm]
  · exact (hsame _ _ _ _ h' hmarks).1

end World

end Dalvik
