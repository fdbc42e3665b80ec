import Dalvik.StaticFields

/-!
# Histories of initialization

What a history says about the classes whose initialization it tells: how far each of them has come,
which of them are unfinished, which one began because another one extends it, and what a static
field holds. The latest step of a history is in front.
-/

namespace Dalvik

namespace StaticStep

/-- The class whose initialization the step belongs to. -/
def subject? : StaticStep → Option TypeDescriptor
  | began type | seeded type | started type | ended type _ => some type
  | foreign _ | read _ _ | wrote _ _ => none

/-- The class whose initializer starts to run. -/
def starting? : StaticStep → Option TypeDescriptor
  | started type => some type
  | _ => none

end StaticStep

namespace History

/-- The steps of the initialization of one class. -/
def life (type : TypeDescriptor) (history : List StaticStep) : List StaticStep :=
  history.filter fun step => step.subject? = some type

/-- The classes whose initialization has begun and is not over, the innermost first. -/
def pending : List StaticStep → List TypeDescriptor
  | [] => []
  | .began type :: earlier => type :: pending earlier
  | .ended _ _ :: earlier => (pending earlier).tail
  | .seeded _ :: earlier | .started _ :: earlier | .foreign _ :: earlier | .read _ _ :: earlier
  | .wrote _ _ :: earlier => pending earlier

/-- Code from outside may run: no class is being initialized, or the initializer of the innermost
one is running. -/
def Open (history : List StaticStep) : Prop :=
  ∀ type, (pending history).head? = some type → .started type ∈ history

/-- The initialization of `parent` began as part of that of `type`, before anything else. -/
def Called (parent type : TypeDescriptor) (history : List StaticStep) : Prop :=
  [.began parent, .began type] <:+: history

/-- The classes whose initializers have started, the latest first. -/
def startings (history : List StaticStep) : List TypeDescriptor :=
  history.filterMap StaticStep.starting?

/-- What a static field that starts with `start` holds: what was assigned or given to it last. -/
def held (start : Value) (field : FieldId) : List StaticStep → Option Value
  | [] => none
  | .wrote other value :: earlier => if other = field then some value else held start field earlier
  | .seeded type :: earlier => if type = field.owner then some start else held start field earlier
  | .began _ :: earlier | .started _ :: earlier | .ended _ _ :: earlier | .foreign _ :: earlier
  | .read _ _ :: earlier => held start field earlier

/-- The value that was assigned to a static field last. -/
def lastWrite (field : FieldId) : List StaticStep → Option Value
  | [] => none
  | .wrote other value :: earlier => if other = field then some value else lastWrite field earlier
  | .began _ :: earlier | .seeded _ :: earlier | .started _ :: earlier | .ended _ _ :: earlier
  | .foreign _ :: earlier | .read _ _ :: earlier => lastWrite field earlier

/-- The lives that a class may have had, the latest step in front, and whether they are unfinished.
One that never got its static fields was abandoned when the class that it extends failed. -/
inductive Life (type : TypeDescriptor) : Bool → List StaticStep → Prop where
  | untouched : Life type false []
  | waiting : Life type true [.began type]
  | abandoned : Life type false [.ended type false, .began type]
  | seeded : Life type true [.seeded type, .began type]
  | unattended : Life type false [.ended type true, .seeded type, .began type]
  | running : Life type true [.started type, .seeded type, .began type]
  | over (succeeded : Bool) :
      Life type false [.ended type succeeded, .started type, .seeded type, .began type]

variable {type parent : TypeDescriptor} {step : StaticStep} {history later : List StaticStep}

theorem mem_life : step ∈ life type history ↔ step ∈ history ∧ step.subject? = some type := by
  simp [life]

theorem mem_of_life_eq {steps : List StaticStep} (h : life type history = steps)
    (hs : step ∈ steps) : step ∈ history :=
  (mem_life.1 (h ▸ hs)).1

theorem life_cons_self (h : step.subject? = some type) :
    life type (step :: history) = step :: life type history := by
  simp [life, h]

theorem life_cons_of_ne (h : step.subject? ≠ some type) :
    life type (step :: history) = life type history := by
  simp [life, h]

theorem mem_startings : type ∈ startings history ↔ .started type ∈ history := by
  rw [startings, List.mem_filterMap]
  constructor
  · intro h
    obtain ⟨step, hm, hs⟩ := h
    cases step <;> simp only [StaticStep.starting?, reduceCtorEq, Option.some.injEq] at hs
    exact hs ▸ hm
  · exact fun hm => ⟨_, hm, rfl⟩

theorem pending_cons_of_subject_none (h : step.subject? = none) :
    pending (step :: history) = pending history := by
  cases step <;> simp_all [StaticStep.subject?, pending]

theorem called_cons_of_ne (h : step ≠ .began parent) :
    Called parent type (step :: history) ↔ Called parent type history := by
  simp [Called, List.infix_cons_iff, Ne.symm h]

theorem called_began_cons :
    Called parent type (.began parent :: history) ↔
      history.head? = some (.began type) ∨ Called parent type history := by
  rw [Called, List.infix_cons_iff, List.cons_prefix_cons]
  cases history with
  | nil => simp [Called]
  | cons latest earlier => simp [Called, List.cons_prefix_cons, eq_comm (a := latest)]

theorem Called.mem_parent (h : Called parent type history) : .began parent ∈ history :=
  h.subset (by simp)

theorem Called.mem (h : Called parent type history) : .began type ∈ history :=
  h.subset (by simp)

theorem Called.mono (h : Called parent type history) (hs : history <:+ later) :
    Called parent type later :=
  h.trans hs.isInfix

/-! ## What a static field holds -/

section Held

variable {field : FieldId} {start : Value}

/-- Once a field was given the value that it starts with, it holds what was assigned last since. -/
theorem held_of_seeded {since earlier : List StaticStep} (h : .seeded field.owner ∉ since) :
    held start field (since ++ .seeded field.owner :: earlier) =
      some ((lastWrite field since).getD start) := by
  induction since with
  | nil => simp [held, lastWrite]
  | cons step since ih =>
    rw [List.mem_cons, not_or] at h
    obtain ⟨hstep, hsince⟩ := h
    cases step with
    | wrote other value =>
      by_cases heq : other = field <;> simp [held, lastWrite, heq, ih hsince]
    | seeded type =>
      have hne : type ≠ field.owner := fun heq => hstep (by rw [heq])
      simp [held, lastWrite, hne, ih hsince]
    | _ => simpa [held, lastWrite] using ih hsince

/-- A field whose class never got its values holds what was assigned to it last. -/
theorem held_of_not_seeded (h : .seeded field.owner ∉ history) :
    held start field history = lastWrite field history := by
  induction history with
  | nil => rfl
  | cons step earlier ih =>
    rw [List.mem_cons, not_or] at h
    obtain ⟨hstep, hearlier⟩ := h
    cases step with
    | seeded type =>
      have hne : type ≠ field.owner := fun heq => hstep (by rw [heq])
      simpa [held, lastWrite, hne] using ih hearlier
    | _ => simp [held, lastWrite, ih hearlier]

/-- What was assigned stays until the class gets its values. -/
theorem held_of_wrote {since earlier : List StaticStep} {value : Value}
    (hseeded : .seeded field.owner ∉ since) (h : ∀ other, .wrote field other ∉ since) :
    held start field (since ++ .wrote field value :: earlier) = some value := by
  induction since with
  | nil => simp [held]
  | cons step since ih =>
    rw [List.mem_cons, not_or] at hseeded
    obtain ⟨hstep, hsince⟩ := hseeded
    have hheld := ih hsince fun other hm => h other (List.mem_cons_of_mem _ hm)
    cases step with
    | wrote other assigned =>
      have hne : other ≠ field := fun heq => h assigned (by simp [heq])
      simpa [held, hne] using hheld
    | seeded type =>
      have hne : type ≠ field.owner := fun heq => hstep (by rw [heq])
      simpa [held, hne] using hheld
    | _ => simpa [held] using hheld

/-- When the class got its values, and nothing was assigned since, the field holds its own. -/
theorem held_of_overwritten {since earlier : List StaticStep}
    (hseeded : .seeded field.owner ∈ since) (h : ∀ other, .wrote field other ∉ since) :
    held start field (since ++ earlier) = some start := by
  induction since with
  | nil => simp at hseeded
  | cons step since ih =>
    have hheld := fun hm => ih hm fun other hm => h other (List.mem_cons_of_mem _ hm)
    cases step with
    | wrote other assigned =>
      have hne : other ≠ field := fun heq => h assigned (by simp [heq])
      simpa [held, hne] using hheld (by simpa using hseeded)
    | seeded type =>
      by_cases heq : type = field.owner
      · simp [held, heq]
      · simpa [held, heq] using hheld (by simpa [Ne.symm heq] using hseeded)
    | _ => simpa [held] using hheld (by simpa using hseeded)

theorem lastWrite_isSome :
    (lastWrite field history).isSome = true ↔ ∃ value, .wrote field value ∈ history := by
  induction history with
  | nil => simp [lastWrite]
  | cons step earlier ih =>
    cases step with
    | wrote other value =>
      by_cases heq : other = field
      · simp only [lastWrite, heq, if_true, Option.isSome_some, true_iff]
        exact ⟨value, List.mem_cons_self⟩
      · simp [lastWrite, heq, ih, Ne.symm heq]
    | _ => simpa [lastWrite] using ih

end Held

/-! ## What a life tells -/

theorem Life.began {unfinished : Bool} {steps : List StaticStep} (h : Life type unfinished steps)
    (hne : steps ≠ []) : .began type ∈ steps := by
  cases h <;> simp at hne ⊢

/-- Nothing happens twice in a life. -/
theorem Life.steps_nodup {unfinished : Bool} {steps : List StaticStep}
    (h : Life type unfinished steps) : steps.Nodup := by
  cases h <;> simp

theorem Life.eq_nil_of_began {unfinished : Bool} {steps : List StaticStep}
    (h : Life type unfinished (.began type :: steps)) : steps = [] := by
  cases h
  rfl

/-- A life that is over had its values or failed. -/
theorem Life.seeded_or_failed {steps : List StaticStep} (h : Life type false steps)
    (hb : .began type ∈ steps) : .seeded type ∈ steps ∨ .ended type false ∈ steps := by
  cases h <;> simp at hb ⊢

theorem Life.seeded_of_started {unfinished : Bool} {steps : List StaticStep}
    (h : Life type unfinished steps) (hs : .started type ∈ steps) : .seeded type ∈ steps := by
  cases h <;> simp at hs ⊢

theorem Life.not_failed_of_succeeded {unfinished : Bool} {steps : List StaticStep}
    (h : Life type unfinished steps) (hs : .ended type true ∈ steps) :
    .ended type false ∉ steps := by
  cases h <;> simp_all

theorem Life.not_ended {steps : List StaticStep} (h : Life type true steps) (succeeded : Bool) :
    .ended type succeeded ∉ steps := by
  cases h <;> simp

end History

end Dalvik
