import Dalvik.Proofs.Initialization.History
import Mathlib.Data.List.Nodup
import Mathlib.Logic.Relation

/-!
# Steps of a lineage

All that can happen to the static fields of a lineage, one thing at a time: `Step` says what each
thing changes and when it may happen. The invariant of the steps is that the history of a lineage
is coherent: it tells one life for each class, and which classes are marked.
-/

namespace Dalvik

open History

namespace Program

/-- The latest thing that happened is that the initialization of a class began that extends
`type`. -/
def Awaits (program : Program) (type : TypeDescriptor) (history : List StaticStep) : Prop :=
  ∃ child, history.head? = some (.began child) ∧ program.parent? child = some type

/-- The initialization of the class that `type` extends was part of that of `type`, and failed. -/
def CutShort (program : Program) (type : TypeDescriptor) (history : List StaticStep) : Prop :=
  ∃ parent, program.parent? type = some parent ∧ Called parent type history ∧
    .ended parent false ∈ history

/-- The class that `type` extends does not have to be initialized any more, and did not fail as part
of the initialization of `type`. -/
def ParentReady (program : Program) (type : TypeDescriptor) (lineage : Lineage) : Prop :=
  ∀ parent, program.parent? type = some parent → program.isLocal parent = true →
    lineage.isInitialized parent = true ∧
      (Called parent type lineage.history → .ended parent true ∈ lineage.history)

theorem CutShort.mono {program : Program} {type : TypeDescriptor}
    {history later : List StaticStep} (h : program.CutShort type history)
    (hs : history <:+ later) : program.CutShort type later := by
  obtain ⟨parent, hparent, hcalled, hended⟩ := h
  exact ⟨parent, hparent, hcalled.mono hs, hs.subset hended⟩

end Program

namespace StaticFields

variable {statics : StaticFields}

/-- One thing that happens to the static fields of a lineage. -/
inductive Step (statics : StaticFields) : Lineage → Lineage → Prop where
  | enter {lineage type} (hlocal : statics.program.isLocal type = true)
      (hnew : lineage.isInitialized type = false)
      (hcall : Open lineage.history ∨ statics.program.Awaits type lineage.history) :
      Step statics lineage ((lineage.mark type).record (.began type))
  | seed {lineage type definition} (hfind : statics.program.find? type = some definition)
      (htop : (pending lineage.history).head? = some type)
      (hlife : life type lineage.history = [.began type])
      (hparent : statics.program.ParentReady type lineage) :
      Step statics lineage ((lineage.seed definition).record (.seeded type))
  | start {lineage type} (hcode : statics.initializer.isSome = true)
      (htop : (pending lineage.history).head? = some type)
      (hlife : life type lineage.history = [.seeded type, .began type]) :
      Step statics lineage (lineage.record (.started type))
  | finish {lineage type} (hcode : statics.initializer = none)
      (htop : (pending lineage.history).head? = some type)
      (hlife : life type lineage.history = [.seeded type, .began type]) :
      Step statics lineage (lineage.record (.ended type true))
  | stop {lineage type} (succeeded : Bool)
      (htop : (pending lineage.history).head? = some type)
      (hlife : life type lineage.history = [.started type, .seeded type, .began type]) :
      Step statics lineage (lineage.record (.ended type succeeded))
  | abandon {lineage type} (htop : (pending lineage.history).head? = some type)
      (hlife : life type lineage.history = [.began type])
      (hcut : statics.program.CutShort type lineage.history) :
      Step statics lineage (lineage.record (.ended type false))
  | read {lineage field declared} (hdeclared : statics.resolve field = .ok declared)
      (hmarked : lineage.isInitialized field.owner = true) (hopen : Open lineage.history) :
      Step statics lineage
        (lineage.record (.read field ((lineage.static? field).getD (.default field.type))))
  | write {lineage field declared} (value : Value)
      (hdeclared : statics.resolve field = .ok declared) (hfits : checkWrite field value = .ok ())
      (hmarked : lineage.isInitialized field.owner = true) (hopen : Open lineage.history) :
      Step statics lineage ((lineage.store field value).record (.wrote field value))
  | foreign {lineage type} (hforeign : statics.program.isLocal type = false)
      (hnew : lineage.isInitialized type = false) (hidle : pending lineage.history = []) :
      Step statics lineage ((lineage.mark type).record (.foreign type))
  | supply {lineage} (supply : Supply) : Step statics lineage { lineage with supply }

/-- One thing after the other. -/
abbrev Steps (statics : StaticFields) : Lineage → Lineage → Prop :=
  Relation.ReflTransGen statics.Step

/-- The lineages that come about from the start of a run. -/
def Reachable (statics : StaticFields) (lineage : Lineage) : Prop :=
  ∃ supply, statics.Steps (.start supply) lineage

theorem Reachable.start (supply : Supply) : statics.Reachable (.start supply) :=
  ⟨supply, .refl⟩

theorem Reachable.steps {lineage later : Lineage} (h : statics.Reachable lineage)
    (hs : statics.Steps lineage later) : statics.Reachable later := by
  obtain ⟨supply, hsupply⟩ := h
  exact ⟨supply, hsupply.trans hs⟩

/-- What holds at the start and is kept by every step holds of every lineage. -/
theorem Reachable.induct {I : Lineage → Prop} (hstart : ∀ supply, I (.start supply))
    (hstep : ∀ lineage later, statics.Reachable lineage → I lineage →
      statics.Step lineage later → I later)
    {lineage : Lineage} (h : statics.Reachable lineage) : I lineage := by
  obtain ⟨supply, hs⟩ := h
  induction hs with
  | refl => exact hstart supply
  | tail hs step ih => exact hstep _ _ ⟨supply, hs⟩ ih step

theorem Step.history {lineage later : Lineage} (h : statics.Step lineage later) :
    lineage.history <:+ later.history := by
  cases h <;> simp

theorem Step.isInitialized {lineage later : Lineage} (h : statics.Step lineage later)
    {type : TypeDescriptor} (hi : lineage.isInitialized type = true) :
    later.isInitialized type = true := by
  cases h with
  | supply => exact hi
  | _ => simp [hi]

theorem Steps.history {lineage later : Lineage} (h : statics.Steps lineage later) :
    lineage.history <:+ later.history := by
  induction h with
  | refl => exact List.suffix_rfl
  | tail _ step ih => exact ih.trans step.history

/-- A step tells at most one thing. -/
theorem Step.history_cons {lineage later : Lineage} (h : statics.Step lineage later) :
    later.history = lineage.history ∨ ∃ step, later.history = step :: lineage.history := by
  cases h <;> simp

/-- What stands in a history was told by a step from a lineage with the history before it. -/
theorem Reachable.cut {lineage : Lineage} {since earlier : List StaticStep} {step : StaticStep}
    (h : statics.Reachable lineage) (hh : lineage.history = since ++ step :: earlier) :
    ∃ before after, statics.Reachable before ∧ before.history = earlier ∧
      statics.Step before after ∧ after.history = step :: before.history := by
  obtain ⟨supply, hs⟩ := h
  induction hs generalizing since with
  | refl => simp [Lineage.start] at hh
  | @tail before after hs hstep ih =>
    rcases hstep.history_cons with heq | ⟨latest, heq⟩
    · exact ih (heq ▸ hh)
    -- It was told by the last step, or before it.
    · rw [heq] at hh
      cases since with
      | nil =>
        obtain ⟨rfl, rfl⟩ := List.cons.inj hh
        exact ⟨before, after, ⟨supply, hs⟩, rfl, hstep, heq⟩
      | cons _ since => exact ih (List.cons.inj hh).2

/-! ## Coherent histories -/

/-- The history tells of every class the life that it has had, whether it is under way, and whether
it is marked. -/
structure Coherent (statics : StaticFields) (lineage : Lineage) : Prop where
  marked : ∀ type, lineage.isInitialized type = true ↔
    .began type ∈ lineage.history ∨ .foreign type ∈ lineage.history
  began_local : ∀ type, .began type ∈ lineage.history → statics.program.isLocal type = true
  foreign_not_local : ∀ type, .foreign type ∈ lineage.history →
    statics.program.isLocal type = false
  lives : ∀ type, Life type (decide (type ∈ pending lineage.history)) (life type lineage.history)
  nodup : (pending lineage.history).Nodup

variable {lineage later : Lineage} {type : TypeDescriptor}

theorem Coherent.start (supply : Supply) : Coherent statics (.start supply) where
  marked _ := by simp [Lineage.start, Lineage.isInitialized]
  began_local _ h := by simp [Lineage.start] at h
  foreign_not_local _ h := by simp [Lineage.start] at h
  lives _ := .untouched
  nodup := List.nodup_nil

theorem Coherent.began_of_mem (h : Coherent statics lineage) {step : StaticStep}
    (hs : step ∈ lineage.history) (htype : step.subject? = some type) :
    .began type ∈ lineage.history := by
  have hmem := mem_life.2 ⟨hs, htype⟩
  exact (mem_life.1 ((h.lives type).began (List.ne_nil_of_mem hmem))).1

theorem Coherent.began_of_pending (h : Coherent statics lineage)
    (hp : type ∈ pending lineage.history) : .began type ∈ lineage.history := by
  have hlife := h.lives type
  simp only [hp, decide_true] at hlife
  cases hsteps : life type lineage.history with
  | nil => rw [hsteps] at hlife; cases hlife
  | cons step rest =>
    have hmem : step ∈ life type lineage.history := by simp [hsteps]
    exact h.began_of_mem (mem_life.1 hmem).1 (mem_life.1 hmem).2

theorem Coherent.marked_of_mem (h : Coherent statics lineage) {step : StaticStep}
    (hs : step ∈ lineage.history) (htype : step.subject? = some type) :
    lineage.isInitialized type = true :=
  (h.marked type).2 (.inl (h.began_of_mem hs htype))

theorem Coherent.marked_of_pending (h : Coherent statics lineage)
    (hp : type ∈ pending lineage.history) : lineage.isInitialized type = true :=
  (h.marked type).2 (.inl (h.began_of_pending hp))

theorem Coherent.life_of_new (h : Coherent statics lineage)
    (hnew : lineage.isInitialized type = false) : life type lineage.history = [] := by
  by_contra hne
  have hbegan := (mem_life.1 ((h.lives type).began hne)).1
  simp [(h.marked type).2 (.inl hbegan)] at hnew

/-- A step of an initialization happens only once. -/
theorem Coherent.not_mem_of_cut (h : Coherent statics lineage) {since earlier : List StaticStep}
    {step : StaticStep} (hsubject : step.subject? = some type)
    (hh : lineage.history = since ++ step :: earlier) : step ∉ since ∧ step ∉ earlier := by
  have hnodup := (h.lives type).steps_nodup
  rw [hh, life, List.filter_append, ← life, ← life, life_cons_self hsubject,
    List.nodup_append, List.nodup_cons] at hnodup
  obtain ⟨-, ⟨hearlier, -⟩, hsince⟩ := hnodup
  refine ⟨fun hm => ?_, fun hm => hearlier (mem_life.2 ⟨hm, hsubject⟩)⟩
  exact hsince step (mem_life.2 ⟨hm, hsubject⟩) step List.mem_cons_self rfl

theorem Coherent.life_of_latest (h : Coherent statics lineage)
    (hlatest : lineage.history.head? = some (.began type)) :
    life type lineage.history = [.began type] := by
  obtain ⟨earlier, hhistory⟩ := List.head?_eq_some_iff.1 hlatest
  have hlife := h.lives type
  have hcons : life type lineage.history = .began type :: life type earlier := by
    rw [hhistory, life_cons_self rfl]
  rw [hcons] at hlife ⊢
  rw [hlife.eq_nil_of_began]

/-- Right after the initialization of a class began, no other one has begun as part of it. -/
theorem Coherent.not_called_of_latest (h : Coherent statics lineage)
    (hlatest : lineage.history.head? = some (.began type)) (parent : TypeDescriptor) :
    ¬ Called parent type lineage.history := by
  intro hcalled
  obtain ⟨earlier, hhistory⟩ := List.head?_eq_some_iff.1 hlatest
  have hlife := h.life_of_latest hlatest
  rw [hhistory, life_cons_self rfl, List.cons.injEq] at hlife
  have hmem : .began type ∈ earlier := by
    rw [hhistory, Called, List.infix_cons_iff] at hcalled
    rcases hcalled with hnow | hbefore
    · exact (List.cons_prefix_cons.1 hnow).2.subset (by simp)
    · exact hbefore.subset (by simp)
  simpa [hlife.2] using mem_life.2 ⟨hmem, show StaticStep.subject? _ = some type from rfl⟩

/-- The other lives go on as they are when a step belongs to one class. -/
theorem Coherent.lives_cons (h : Coherent statics lineage) {step : StaticStep}
    (hsubject : step.subject? = some type)
    (hself : Life type (decide (type ∈ pending (step :: lineage.history)))
      (step :: life type lineage.history))
    (hothers : ∀ other, other ≠ type →
      (other ∈ pending (step :: lineage.history) ↔ other ∈ pending lineage.history))
    (other : TypeDescriptor) :
    Life other (decide (other ∈ pending (step :: lineage.history)))
      (life other (step :: lineage.history)) := by
  by_cases heq : other = type
  · subst heq
    rwa [life_cons_self hsubject]
  · have hne : step.subject? ≠ some other := by
      rw [hsubject]
      exact fun hs => heq (Option.some.inj hs).symm
    simpa only [life_cons_of_ne hne, hothers other heq] using h.lives other

/-- A class is marked and its initialization begins. -/
theorem Coherent.enter (h : Coherent statics lineage)
    (hlocal : statics.program.isLocal type = true) (hnew : lineage.isInitialized type = false) :
    Coherent statics ((lineage.mark type).record (.began type)) where
  marked other := by
    simp [h.marked other]
    tauto
  began_local other hb := by
    simp only [Lineage.history_record, Lineage.history_mark, List.mem_cons,
      StaticStep.began.injEq] at hb
    rcases hb with rfl | hb
    · exact hlocal
    · exact h.began_local other hb
  foreign_not_local other hf := by
    simp only [Lineage.history_record, Lineage.history_mark, List.mem_cons, reduceCtorEq,
      false_or] at hf
    exact h.foreign_not_local other hf
  lives other := by
    rw [Lineage.history_record, Lineage.history_mark]
    refine h.lives_cons rfl ?_ (fun other hne => by simp [pending, hne]) other
    simpa [pending, h.life_of_new hnew] using Life.waiting
  nodup := by
    rw [Lineage.history_record, Lineage.history_mark, pending, List.nodup_cons]
    refine ⟨fun hp => ?_, h.nodup⟩
    simp [h.marked_of_pending hp] at hnew

/-- The initialization of a class goes on, or ends. -/
theorem Coherent.proceed (h : Coherent statics lineage) {step : StaticStep}
    (hhistory : later.history = step :: lineage.history)
    (hmarks : ∀ other, later.isInitialized other = lineage.isInitialized other)
    (hsubject : step.subject? = some type) (hbegan : step ≠ .began type)
    (hself : Life type (decide (type ∈ pending (step :: lineage.history)))
      (step :: life type lineage.history))
    (hothers : ∀ other, other ≠ type →
      (other ∈ pending (step :: lineage.history) ↔ other ∈ pending lineage.history))
    (hnodup : (pending (step :: lineage.history)).Nodup) : Coherent statics later := by
  have hbegan' : ∀ other, .began other ∈ later.history ↔ .began other ∈ lineage.history := by
    intro other
    rw [hhistory, List.mem_cons, or_iff_right]
    rintro rfl
    exact hbegan (by cases hsubject; rfl)
  have hforeign : ∀ other, .foreign other ∈ later.history ↔ .foreign other ∈ lineage.history := by
    intro other
    rw [hhistory, List.mem_cons, or_iff_right]
    rintro rfl
    cases hsubject
  refine ⟨fun other => ?_, fun other hb => h.began_local other ((hbegan' other).1 hb),
    fun other hf => h.foreign_not_local other ((hforeign other).1 hf), ?_, ?_⟩
  · rw [hmarks, h.marked, hbegan', hforeign]
  · rw [hhistory]
    exact h.lives_cons hsubject hself hothers
  · rwa [hhistory]

/-- The initialization of the innermost class goes on. -/
theorem Coherent.goOn (h : Coherent statics lineage) (step : StaticStep)
    (hhistory : later.history = step :: lineage.history)
    (hmarks : ∀ other, later.isInitialized other = lineage.isInitialized other)
    (hsubject : step.subject? = some type) (hbegan : step ≠ .began type)
    (htop : (pending lineage.history).head? = some type)
    (hpending : pending (step :: lineage.history) = pending lineage.history)
    (hlife : Life type true (step :: life type lineage.history)) : Coherent statics later := by
  have hmem : type ∈ pending lineage.history := List.mem_of_mem_head? htop
  refine h.proceed hhistory hmarks hsubject hbegan ?_ ?_ ?_
  · simpa [hpending, hmem] using hlife
  · simp [hpending]
  · rw [hpending]
    exact h.nodup

/-- The initialization of the innermost class ends. -/
theorem Coherent.leave (h : Coherent statics lineage) {succeeded : Bool}
    (htop : (pending lineage.history).head? = some type)
    (hlife : Life type false (.ended type succeeded :: life type lineage.history)) :
    Coherent statics (lineage.record (.ended type succeeded)) := by
  obtain ⟨outer, houter⟩ := List.head?_eq_some_iff.1 htop
  have hnodup := h.nodup
  rw [houter, List.nodup_cons] at hnodup
  have hpending : pending (.ended type succeeded :: lineage.history) = outer := by
    simp [pending, houter]
  refine h.proceed rfl (fun _ => rfl) rfl (by simp) ?_ ?_ ?_
  · simpa [hpending, hnodup.1] using hlife
  · intro other hne
    simp [hpending, houter, hne]
  · rw [hpending]
    exact hnodup.2

/-- Something happens that belongs to the initialization of no class. -/
theorem Coherent.quiet (h : Coherent statics lineage) (step : StaticStep)
    (hhistory : later.history = step :: lineage.history) (hsubject : step.subject? = none)
    (hmarks : ∀ other, later.isInitialized other = true ↔
      lineage.isInitialized other = true ∨ step = .foreign other)
    (hforeign : ∀ other, step = .foreign other → statics.program.isLocal other = false) :
    Coherent statics later := by
  have hbegan : ∀ other, .began other ∈ later.history ↔ .began other ∈ lineage.history := by
    intro other
    rw [hhistory, List.mem_cons, or_iff_right]
    rintro rfl
    cases hsubject
  refine ⟨fun other => ?_, fun other hb => h.began_local other ((hbegan other).1 hb),
    fun other hf => ?_, fun other => ?_, ?_⟩
  · rw [hmarks, h.marked, hbegan, hhistory, List.mem_cons, eq_comm (a := step)]
    tauto
  · rw [hhistory, List.mem_cons] at hf
    rcases hf with hf | hf
    · exact hforeign other hf.symm
    · exact h.foreign_not_local other hf
  · rw [hhistory, pending_cons_of_subject_none hsubject, life_cons_of_ne (by simp [hsubject])]
    exact h.lives other
  · rw [hhistory, pending_cons_of_subject_none hsubject]
    exact h.nodup

theorem Coherent.step (h : Coherent statics lineage) (hs : statics.Step lineage later) :
    Coherent statics later := by
  cases hs with
  | enter hlocal hnew hcall => exact h.enter hlocal hnew
  | seed hfind htop hlife hparent =>
    refine h.goOn (.seeded _) (by simp) (by simp) rfl (by simp) htop rfl ?_
    rw [hlife]
    exact .seeded
  | start hcode htop hlife =>
    refine h.goOn (.started _) rfl (by simp) rfl (by simp) htop rfl ?_
    rw [hlife]
    exact .running
  | finish hcode htop hlife =>
    refine h.leave htop ?_
    rw [hlife]
    exact .unattended
  | stop succeeded htop hlife =>
    refine h.leave htop ?_
    rw [hlife]
    exact .over succeeded
  | abandon htop hlife hcut =>
    refine h.leave htop ?_
    rw [hlife]
    exact .abandoned
  | read hdeclared hmarked hopen => exact h.quiet (.read ..) rfl rfl (by simp) (by simp)
  | @write field declared value hdeclared hfits hmarked hopen =>
    exact h.quiet (.wrote field value) (by simp) rfl (by simp) (by simp)
  | @foreign type hforeign hnew hidle =>
    refine h.quiet (.foreign type) (by simp) rfl (fun other => ?_) ?_
    · simp [eq_comm (a := other)]
    · rintro other ⟨⟩
      exact hforeign
  | supply => exact ⟨h.marked, h.began_local, h.foreign_not_local, h.lives, h.nodup⟩

theorem Reachable.coherent (h : statics.Reachable lineage) : Coherent statics lineage :=
  h.induct .start fun _ _ _ hi hs => hi.step hs

end StaticFields

end Dalvik
