import Dalvik.Proofs.Initialization.Steps

/-!
# Nested initializations

A class that is marked waits for the class that it extends, and gets its values when that one has
succeeded. `Nested` says what the history and the unfinished initializations tell of such a pair:
which class was begun because of which, and that the one that waits goes on right after the other.
-/

namespace Dalvik.StaticFields

open History

variable {statics : StaticFields} {lineage later : Lineage} {type : TypeDescriptor}

/-- How the initialization of a class and of the class that it extends lie in one another. -/
structure Nested (statics : StaticFields) (lineage : Lineage) : Prop where
  extends_parent : ∀ {parent type}, Called parent type lineage.history →
    statics.program.parent? type = some parent
  adjacent : ∀ {parent type}, Called parent type lineage.history →
    parent ∈ pending lineage.history → [parent, type] <:+: pending lineage.history
  called : ∀ {parent type}, [parent, type] <:+: pending lineage.history →
    .seeded type ∉ lineage.history → Called parent type lineage.history
  ready : ∀ {parent type}, Called parent type lineage.history → .seeded type ∈ lineage.history →
    .ended parent true ∈ lineage.history
  resumed : ∀ {parent type}, Called parent type lineage.history →
    .ended parent true ∈ lineage.history →
    .seeded type ∈ lineage.history ∨ (pending lineage.history).head? = some type

theorem Nested.start (supply : Supply) : Nested statics (.start supply) where
  extends_parent h := absurd h.mem (by simp [Lineage.start])
  adjacent h := absurd h.mem (by simp [Lineage.start])
  called h := absurd (h.subset List.mem_cons_self) (by simp [Lineage.start, pending])
  ready h := absurd h.mem (by simp [Lineage.start])
  resumed h := absurd h.mem (by simp [Lineage.start])

theorem Coherent.seeded_of_started (h : Coherent statics lineage)
    (hs : .started type ∈ lineage.history) : .seeded type ∈ lineage.history :=
  (mem_life.1 ((h.lives type).seeded_of_started (mem_life.2 ⟨hs, rfl⟩))).1

theorem Coherent.not_failed_of_succeeded (h : Coherent statics lineage)
    (hs : .ended type true ∈ lineage.history) : .ended type false ∉ lineage.history :=
  fun hf => (h.lives type).not_failed_of_succeeded (mem_life.2 ⟨hs, rfl⟩) (mem_life.2 ⟨hf, rfl⟩)

/-- Where code may run, the innermost class has its values. -/
theorem Coherent.seeded_of_isOpen (h : Coherent statics lineage) (hopen : Open lineage.history)
    (htop : (pending lineage.history).head? = some type) : .seeded type ∈ lineage.history :=
  h.seeded_of_started (hopen type htop)

theorem Coherent.not_seeded_of_latest (h : Coherent statics lineage)
    (hlatest : lineage.history.head? = some (.began type)) : .seeded type ∉ lineage.history := by
  intro hs
  have hlife : .seeded type ∈ life type lineage.history := mem_life.2 ⟨hs, rfl⟩
  simp [h.life_of_latest hlatest] at hlife

theorem pending_of_latest (hlatest : lineage.history.head? = some (.began type)) :
    (pending lineage.history).head? = some type := by
  obtain ⟨earlier, hearlier⟩ := List.head?_eq_some_iff.1 hlatest
  simp [hearlier, pending]

/-- A class begins right after another one only if that one extends it. -/
theorem Coherent.called_of_enter (h : Coherent statics lineage)
    (hcall : Open lineage.history ∨ statics.program.Awaits type lineage.history)
    {parent other : TypeDescriptor} (hc : Called parent other (.began type :: lineage.history)) :
    Called parent other lineage.history ∨ parent = type ∧
      lineage.history.head? = some (.began other) ∧ statics.program.parent? other = some type := by
  by_cases heq : parent = type
  · subst heq
    rcases called_began_cons.1 hc with hlatest | hbefore
    · refine .inr ⟨rfl, hlatest, ?_⟩
      rcases hcall with hopen | ⟨child, hchild, hparent⟩
      · exact absurd (h.seeded_of_isOpen hopen (pending_of_latest hlatest))
          (h.not_seeded_of_latest hlatest)
      · obtain rfl : child = other := by simpa [hchild] using hlatest
        exact hparent
    · exact .inl hbefore
  · have hne : StaticStep.began type ≠ .began parent := fun hs => heq (by cases hs; rfl)
    exact .inl ((called_cons_of_ne hne).1 hc)

/-- The innermost class has its values, or the class that begins is the one that it extends. -/
theorem Coherent.seeded_or_latest (h : Coherent statics lineage)
    (hcall : Open lineage.history ∨ statics.program.Awaits type lineage.history)
    {other : TypeDescriptor} (htop : (pending lineage.history).head? = some other) :
    .seeded other ∈ lineage.history ∨ lineage.history.head? = some (.began other) := by
  rcases hcall with hopen | ⟨child, hchild, -⟩
  · exact .inl (h.seeded_of_isOpen hopen htop)
  · obtain rfl : child = other := by simpa [pending_of_latest hchild] using htop
    exact .inr hchild

/-! ## Steps -/

theorem Nested.enter (h : Nested statics lineage) (hc : Coherent statics lineage)
    (hnew : lineage.isInitialized type = false)
    (hcall : Open lineage.history ∨ statics.program.Awaits type lineage.history) :
    Nested statics ((lineage.mark type).record (.began type)) := by
  have hmarked : ∀ {step : StaticStep}, step.subject? = some type → step ∉ lineage.history :=
    fun hsubject hs => by simp [hc.marked_of_mem hs hsubject] at hnew
  constructor <;> intro parent other <;>
    simp only [Lineage.history_record, Lineage.history_mark, pending]
  case extends_parent =>
    intro hcalled
    rcases hc.called_of_enter hcall hcalled with hbefore | ⟨rfl, -, hparent⟩
    · exact h.extends_parent hbefore
    · exact hparent
  case adjacent =>
    intro hcalled hp
    rcases hc.called_of_enter hcall hcalled with hbefore | ⟨rfl, hlatest, -⟩
    · have hne : parent ≠ type := fun heq => hmarked (by rw [heq]; rfl) hbefore.mem_parent
      exact List.infix_cons (h.adjacent hbefore ((List.mem_cons.1 hp).resolve_left hne))
    · obtain ⟨outer, houter⟩ := List.head?_eq_some_iff.1 (pending_of_latest hlatest)
      rw [houter]
      exact ⟨[], outer, rfl⟩
  case called =>
    intro hadjacent hseeded
    rw [List.infix_cons_iff, List.cons_prefix_cons] at hadjacent
    rcases hadjacent with ⟨rfl, htop⟩ | hinner
    -- The class under the one that begins has no values, so it is the one that waits for it.
    · obtain ⟨outer, houter⟩ := htop
      refine called_began_cons.2 (.inl ?_)
      refine (hc.seeded_or_latest hcall (by rw [← houter]; rfl)).resolve_left fun hs => ?_
      exact hseeded (List.mem_cons_of_mem _ hs)
    · exact (h.called hinner fun hs => hseeded (List.mem_cons_of_mem _ hs)).mono
        (List.suffix_cons ..)
  case ready =>
    intro hcalled hseeded
    have hbefore : .seeded other ∈ lineage.history := by simpa using hseeded
    rcases hc.called_of_enter hcall hcalled with hcalled | ⟨rfl, hlatest, -⟩
    · exact List.mem_cons_of_mem _ (h.ready hcalled hbefore)
    · exact absurd hbefore (hc.not_seeded_of_latest hlatest)
  case resumed =>
    intro hcalled hended
    have hbefore : .ended parent true ∈ lineage.history := by simpa using hended
    rcases hc.called_of_enter hcall hcalled with hcalled | ⟨rfl, hlatest, -⟩
    · refine .inl (List.mem_cons_of_mem _ ?_)
      refine (h.resumed hcalled hbefore).elim id fun htop => ?_
      refine (hc.seeded_or_latest hcall htop).resolve_right fun hlatest => ?_
      exact hc.not_called_of_latest hlatest _ hcalled
    · exact absurd hbefore (hmarked rfl)

/-- Something happens that neither begins nor ends an initialization. -/
theorem Nested.goOn (h : Nested statics lineage) (hc : Coherent statics lineage)
    (step : StaticStep) (hhistory : later.history = step :: lineage.history)
    (hbegan : ∀ other, step ≠ .began other)
    (hpending : pending (step :: lineage.history) = pending lineage.history)
    (hended : ∀ other succeeded, step ≠ .ended other succeeded)
    (hready : ∀ other, step = .seeded other → statics.program.ParentReady other lineage) :
    Nested statics later := by
  constructor <;> intro parent other <;>
    rw [hhistory] <;> simp only [hpending, called_cons_of_ne (hbegan _)]
  case extends_parent => exact h.extends_parent
  case adjacent => exact h.adjacent
  case called =>
    exact fun hadjacent hseeded => h.called hadjacent fun hs => hseeded (List.mem_cons_of_mem _ hs)
  case ready =>
    intro hcalled hseeded
    refine List.mem_cons_of_mem _ ?_
    rcases List.mem_cons.1 hseeded with hnow | hbefore
    · have hlocal := hc.began_local parent hcalled.mem_parent
      exact (hready other hnow.symm parent (h.extends_parent hcalled) hlocal).2 hcalled
    · exact h.ready hcalled hbefore
  case resumed =>
    intro hcalled hmem
    have hbefore := (List.mem_cons.1 hmem).resolve_left fun hs => hended parent true hs.symm
    exact (h.resumed hcalled hbefore).imp_left (List.mem_cons_of_mem _)

/-- The innermost initialization ends: the class has its values, or the one that it extends failed.
-/
theorem Nested.leave (h : Nested statics lineage) (hc : Coherent statics lineage)
    {succeeded : Bool} (htop : (pending lineage.history).head? = some type)
    (hseeded : .seeded type ∈ lineage.history ∨ statics.program.CutShort type lineage.history) :
    Nested statics (lineage.record (.ended type succeeded)) := by
  obtain ⟨outer, houter⟩ := List.head?_eq_some_iff.1 htop
  have hnodup := hc.nodup
  rw [houter, List.nodup_cons] at hnodup
  have hbegan : ∀ other, StaticStep.ended type succeeded ≠ .began other := by simp
  constructor <;> intro parent other <;>
    simp only [Lineage.history_record, pending, houter, List.tail_cons,
      called_cons_of_ne (hbegan _)]
  case extends_parent => exact h.extends_parent
  case adjacent =>
    intro hcalled hp
    have hadjacent := h.adjacent hcalled (by rw [houter]; exact List.mem_cons_of_mem _ hp)
    rw [houter, List.infix_cons_iff, List.cons_prefix_cons] at hadjacent
    rcases hadjacent with ⟨rfl, -⟩ | houter
    · exact absurd hp hnodup.1
    · exact houter
  case called =>
    intro hadjacent hs
    refine h.called (by rw [houter]; exact List.infix_cons hadjacent) fun hm => ?_
    exact hs (List.mem_cons_of_mem _ hm)
  case ready =>
    intro hcalled hs
    have hbefore : .seeded other ∈ lineage.history := by simpa using hs
    exact List.mem_cons_of_mem _ (h.ready hcalled hbefore)
  case resumed =>
    intro hcalled hended
    rcases List.mem_cons.1 hended with hnow | hbefore
    -- The class that succeeds was the innermost one, right above the one that waits.
    · obtain ⟨rfl, rfl⟩ := StaticStep.ended.inj hnow
      have hadjacent := h.adjacent hcalled (by rw [houter]; exact List.mem_cons_self)
      rw [houter, List.infix_cons_iff, List.cons_prefix_cons] at hadjacent
      rcases hadjacent with ⟨-, rest, hrest⟩ | hinner
      · exact .inr (by rw [← hrest]; rfl)
      · exact absurd (hinner.subset List.mem_cons_self) hnodup.1
    -- It had succeeded before; the class that waits cannot end then before it has its values.
    · refine .inl (List.mem_cons_of_mem _ ((h.resumed hcalled hbefore).elim id fun hother => ?_))
      obtain rfl : type = other := by simpa [houter] using hother
      refine hseeded.resolve_right ?_
      intro hcut
      obtain ⟨failed, hfailed, -, hfailure⟩ := hcut
      obtain rfl : parent = failed :=
        Option.some.inj ((h.extends_parent hcalled).symm.trans hfailed)
      exact hc.not_failed_of_succeeded hbefore hfailure

theorem Nested.step (h : Nested statics lineage) (hc : Coherent statics lineage)
    (hs : statics.Step lineage later) : Nested statics later := by
  cases hs with
  | enter hlocal hnew hcall => exact h.enter hc hnew hcall
  | @seed type definition hfind htop hlife hparent =>
    refine h.goOn hc (.seeded type) (by simp) (by simp) rfl (by simp) ?_
    rintro _ ⟨⟩
    exact hparent
  | start hcode htop hlife => exact h.goOn hc (.started _) rfl (by simp) rfl (by simp) (by simp)
  | finish hcode htop hlife => exact h.leave hc htop (.inl (mem_of_life_eq hlife (by simp)))
  | stop succeeded htop hlife => exact h.leave hc htop (.inl (mem_of_life_eq hlife (by simp)))
  | abandon htop hlife hcut => exact h.leave hc htop (.inr hcut)
  | read => exact h.goOn hc (.read ..) rfl (by simp) rfl (by simp) (by simp)
  | @write field _ value =>
    exact h.goOn hc (.wrote field value) (by simp) (by simp) rfl (by simp) (by simp)
  | @foreign type =>
    exact h.goOn hc (.foreign type) (by simp) (by simp) rfl (by simp) (by simp)
  | supply => exact ⟨h.extends_parent, h.adjacent, h.called, h.ready, h.resumed⟩

theorem Reachable.nested (h : statics.Reachable lineage) : Nested statics lineage :=
  h.induct .start fun _ _ hl hi hs => hi.step hl.coherent hs

end Dalvik.StaticFields
