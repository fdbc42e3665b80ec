import Dalvik.Proofs.Initialization.LostUpdates

/-!
# Marked classes and the classes that they extend

A class is marked before the class that it extends, so for a while the marks are not closed under
super classes. No code runs in that while: as long as the parent of a marked class is not marked,
that the class began is the latest thing in the history, and where code may run it never is.
-/

namespace Dalvik

open History Run

/-- The parent of every marked local class is marked too, if it is local. -/
def Lineage.ParentsMarked (program : Program) (lineage : Lineage) : Prop :=
  ∀ type parent, program.parent? type = some parent → program.isLocal parent = true →
    lineage.isInitialized type = true → lineage.isInitialized parent = true

/-- Whenever the script has control, the execution satisfies `I`: when it starts, after each of its
requests was answered, and when it ends. -/
def Script.Sees {ρ : Type} {Answer : ρ → Type} {α : Type}
    (serve : (request : ρ) → Run (Answer request)) (I : Execution → Prop) :
    Script ρ Answer α → Execution → Prop
  | .done _, e => I e
  | .fail _, e => I e
  | .ask request next, e => I e ∧ (next (serve request e).1).Sees serve I (serve request e).2

/-- A script sees what holds at its start and is kept by everything that serves it. -/
theorem Script.sees_of_keeps {ρ : Type} {Answer : ρ → Type} {α : Type}
    {serve : (request : ρ) → Run (Answer request)} {I : Lineage → Prop}
    (hkeeps : ∀ request, Keeps I (serve request)) (script : Script ρ Answer α) {e : Execution}
    (h : I e.lineage) : script.Sees serve (fun e => I e.lineage) e := by
  induction script generalizing e with
  | done answer => exact h
  | fail failure => exact h
  | ask request next ih => exact ⟨h, ih _ (hkeeps request e h)⟩

theorem Script.Sees.mono {ρ : Type} {Answer : ρ → Type} {α : Type}
    {serve : (request : ρ) → Run (Answer request)} {I J : Execution → Prop}
    {script : Script ρ Answer α} {e : Execution} (h : script.Sees serve I e)
    (himp : ∀ e, I e → J e) : script.Sees serve J e := by
  induction script generalizing e with
  | done answer => exact himp e h
  | fail failure => exact himp e h
  | ask request next ih => exact ⟨himp e h.1, ih _ h.2⟩

namespace StaticFields

variable {statics : StaticFields} {lineage later : Lineage} {type parent : TypeDescriptor}

/-! ## One step -/

/-- Right after a class began, code may not run. -/
theorem Coherent.not_open_of_latest (h : Coherent statics lineage)
    (hlatest : lineage.history.head? = some (.began type)) : ¬ Open lineage.history := by
  intro hopen
  exact h.not_seeded_of_latest hlatest (h.seeded_of_isOpen hopen (pending_of_latest hlatest))

/-- Right after a class began, its parent is marked by whatever happens next. -/
theorem Step.parent_marked (hs : statics.Step lineage later) (h : Coherent statics lineage)
    (hlatest : lineage.history.head? = some (.began type))
    (hparent : statics.program.parent? type = some parent)
    (hlocal : statics.program.isLocal parent = true) :
    later.isInitialized parent = true ∨ later.history.head? = some (.began type) := by
  have hnotOpen := h.not_open_of_latest hlatest
  have hinnermost : ∀ {other}, (pending lineage.history).head? = some other → other = type := by
    intro other htop
    simpa [htop] using pending_of_latest hlatest
  -- The life of the class has come no further than its begin.
  have hlife := h.life_of_latest hlatest
  cases hs with
  | enter hlocal hnew hcall =>
    obtain ⟨child, hchild, hextends⟩ := hcall.resolve_left hnotOpen
    obtain rfl : child = type := by simpa [hchild] using hlatest
    obtain rfl := Option.some.inj (hextends.symm.trans hparent)
    simp
  | seed hfind htop hlives hready =>
    obtain rfl := hinnermost htop
    left
    simpa using (hready parent hparent hlocal).1
  | start hcode htop hseeded =>
    obtain rfl := hinnermost htop
    simp [hlife] at hseeded
  | finish hcode htop hseeded =>
    obtain rfl := hinnermost htop
    simp [hlife] at hseeded
  | stop succeeded htop hstarted =>
    obtain rfl := hinnermost htop
    simp [hlife] at hstarted
  | abandon htop hbegan hcut =>
    obtain rfl := hinnermost htop
    obtain ⟨other, hother, hcalled, -⟩ := hcut
    obtain rfl := Option.some.inj (hother.symm.trans hparent)
    left
    exact h.marked_of_mem hcalled.mem_parent rfl
  | read hdeclared hmarked hopen => exact absurd hopen hnotOpen
  | write value hdeclared hfits hmarked hopen => exact absurd hopen hnotOpen
  | foreign hforeign hnew hidle =>
    have htop := pending_of_latest hlatest
    simp [hidle] at htop
  | supply supply => exact .inr hlatest

/-- A local class that was not marked before has just begun. -/
theorem Step.latest_of_new (hs : statics.Step lineage later)
    (hlocal : statics.program.isLocal type = true) (hnew : lineage.isInitialized type = false)
    (hmarked : later.isInitialized type = true) : later.history.head? = some (.began type) := by
  cases hs with
  | enter hother hnew' hcall =>
    simp only [Lineage.isInitialized_record, Lineage.isInitialized_mark, hnew, Bool.false_or,
      decide_eq_true_eq] at hmarked
    simp [hmarked]
  | foreign hforeign hnew' hidle =>
    simp only [Lineage.isInitialized_record, Lineage.isInitialized_mark, hnew, Bool.false_or,
      decide_eq_true_eq] at hmarked
    simp [← hmarked, hlocal] at hforeign
  | supply => exact absurd (hnew.symm.trans hmarked) (by simp)
  | _ => simp [hnew] at hmarked

/-! ## Every lineage -/

/-- The parent of a marked class is marked, unless the class has just begun. -/
theorem Reachable.parent_marked_or_latest (h : statics.Reachable lineage)
    (hparent : statics.program.parent? type = some parent)
    (hlocal : statics.program.isLocal parent = true) (hmarked : lineage.isInitialized type = true) :
    lineage.isInitialized parent = true ∨ lineage.history.head? = some (.began type) := by
  have htype : statics.program.isLocal type = true := by
    obtain ⟨definition, hfind, -⟩ := Option.bind_eq_some_iff.1 hparent
    simp [Program.isLocal, hfind]
  have hall : lineage.isInitialized type = true → lineage.isInitialized parent = true ∨
      lineage.history.head? = some (.began type) := by
    apply h.induct (I := fun lineage => lineage.isInitialized type = true →
      lineage.isInitialized parent = true ∨ lineage.history.head? = some (.began type))
    · intro supply hstart
      simp [Lineage.start, Lineage.isInitialized] at hstart
    · intro before after hbefore ih hs hafter
      -- A class that was marked before has its parent marked, or waits for the step that does it.
      by_cases hold : before.isInitialized type = true
      · rcases ih hold with hdone | hlatest
        · exact .inl (hs.isInitialized hdone)
        · exact hs.parent_marked hbefore.coherent hlatest hparent hlocal
      · exact .inr (hs.latest_of_new htype (by simpa using hold) hafter)
  exact hall hmarked

/-- Where code may run, the parents of the marked classes are marked. -/
theorem Reachable.parentsMarked (h : statics.Reachable lineage) (hopen : Open lineage.history) :
    lineage.ParentsMarked statics.program := by
  intro type parent hparent hlocal hmarked
  apply (h.parent_marked_or_latest hparent hlocal hmarked).resolve_right
  intro hlatest
  exact h.coherent.not_open_of_latest hlatest hopen

/-- The code of an initializer starts where code may run. -/
theorem Reachable.open_of_starting {earlier : List StaticStep} (h : statics.Reachable lineage)
    (hh : lineage.history = .started type :: earlier) : Open lineage.history := by
  have hlatest : lineage.history = [] ++ .started type :: earlier := hh
  obtain ⟨before, after, -, rfl, hs, hafter⟩ := h.cut hlatest
  have htop : (pending before.history).head? = some type := by
    cases hs with
    | start hcode htop hlife =>
      obtain ⟨rfl⟩ := StaticStep.started.inj (List.cons.inj hafter).1
      exact htop
    | _ => simp at hafter
  rw [hh]
  exact isOpen_of_started htop

/-- Whatever part of a history comes last, the lineage has been where that is all of it. -/
theorem Reachable.exists_moment {earlier : List StaticStep} (h : statics.Reachable lineage)
    (hearlier : earlier <:+ lineage.history) :
    ∃ moment, statics.Reachable moment ∧ moment.history = earlier := by
  obtain ⟨since, hh⟩ := hearlier
  rcases since.eq_nil_or_concat with rfl | ⟨since, step, rfl⟩
  · exact ⟨lineage, h, hh.symm⟩
  · rw [List.concat_eq_append, List.append_assoc] at hh
    obtain ⟨before, -, hbefore, hhistory, -⟩ := h.cut hh.symm
    exact ⟨before, hbefore, hhistory⟩

/-- The code of an initializer sees the parents of the marked classes marked, however far it has
come, if it starts where code may run. -/
theorem Reachable.sees_parentsMarked {nesting : Nat} {e : Execution}
    (h : statics.Reachable e.lineage) (hopen : Open e.lineage.history)
    (hroom : Room statics nesting e.lineage)
    (code : Script StaticRequest StaticRequest.Answer Unit) :
    code.Sees (statics.serveWith (statics.initializeWithin nesting))
      (fun e => e.lineage.ParentsMarked statics.program) e := by
  have hkeeps := keeps_serveWith (prepares_initializeWithin statics nesting) h hroom hopen
  apply (code.sees_of_keeps hkeeps (.refl e.lineage)).mono
  intro now hadvances
  exact (hadvances.reachable h).parentsMarked (hadvances.isOpen hopen)

end StaticFields

namespace World

open StaticFields

/-- After whatever was done, the parent of a marked local class is marked in the same lineage, if it
is local. The same holds of every state that the lineage, or the one that it was forked from, has
been in where code may run; the start of an initializer is such a state, and the code that goes on
there sees nothing else until it is done, whatever it asks for. -/
theorem marks_closed_where_code_runs (machine : Machine) (operations : List Operation)
    {number : Nat} {lineage : Lineage}
    (h : (after machine operations).lineages[number]? = some lineage) :
    lineage.ParentsMarked machine.program ∧
    (∀ earlier, earlier <:+ lineage.history →
      ∃ moment, machine.statics.Reachable moment ∧ moment.history = earlier) ∧
    (∀ type earlier, .started type :: earlier <:+ lineage.history →
      Open (.started type :: earlier)) ∧
    ∀ moment, machine.statics.Reachable moment → moment.history <:+ lineage.history →
      Open moment.history →
      moment.ParentsMarked machine.program ∧
      ∀ nesting e (code : Script StaticRequest StaticRequest.Answer Unit), e.lineage = moment →
        Room machine.statics nesting moment →
        code.Sees (machine.statics.serveWith (machine.statics.initializeWithin nesting))
          (fun e => e.lineage.ParentsMarked machine.program) e := by
  have hm := List.mem_of_getElem? h
  have hreachable := (sound_after machine operations).reachable lineage hm
  refine ⟨?_, ?_, ?_, ?_⟩
  · apply hreachable.parentsMarked
    exact ((sound_after machine operations).idle lineage hm).isOpen
  · intro earlier hearlier
    exact hreachable.exists_moment hearlier
  · intro type earlier hearlier
    obtain ⟨moment, hmoment, hhistory⟩ := hreachable.exists_moment hearlier
    rw [← hhistory]
    exact hmoment.open_of_starting hhistory
  · intro moment hmoment hhistory hopen
    refine ⟨hmoment.parentsMarked hopen, ?_⟩
    rintro nesting e code rfl hroom
    exact hmoment.sees_parentsMarked hopen hroom code

/-- The initializer of the class that is extended starts while the class that extends it waits. -/
theorem marks_closed_where_code_runs_waiting :
    (Sample.overwritten.lineage 0).ParentsMarked Sample.program ∧
    ∃ moment : Lineage, moment.history = Sample.beforeWrite ∧
      moment.ParentsMarked Sample.program ∧
      ((Sample.baseWrites Sample.base).Sees
        ((Sample.machine Sample.baseWrites).statics.serveWith
          ((Sample.machine Sample.baseWrites).statics.initializeWithin 1))
        (fun e => e.lineage.ParentsMarked Sample.program)
        (.ofFrame default moment)) := by
  have h : Sample.overwritten.lineages[0]? = some _ := rfl
  obtain ⟨hafter, hmoments, hstarts, hsees⟩ := marks_closed_where_code_runs
    (Sample.machine Sample.baseWrites) [Sample.readCount, Sample.readCount] h
  have hsuffix : Sample.beforeWrite <:+ (Sample.overwritten.lineage 0).history :=
    ⟨[.read Sample.count (.int 5), .read Sample.count (.int 5)] ++ Sample.sinceWrite ++
      [.wrote Sample.count (.int 7)], rfl⟩
  obtain ⟨moment, hmoment, hhistory⟩ := hmoments Sample.beforeWrite hsuffix
  have hopen : Open moment.history := hhistory ▸ hstarts Sample.base _ hsuffix
  obtain ⟨hmarked, hcode⟩ := hsees moment hmoment (hhistory ▸ hsuffix) hopen
  refine ⟨hafter, moment, hhistory, hmarked, hcode 1 _ _ rfl ?_⟩
  rw [Room, hhistory]
  decide

end World

end Dalvik
