import Dalvik.Proofs.Initialization.Ascent

/-!
# Initializations end

An initialization recurs through the class that a class extends and through the code of the
initializers at once. It ends because a class is marked before either happens: each initialization
leaves fewer classes for those inside it. So the recursion needs no bound. It determines what an
initialization does, and what stands deeper in it than there are classes to mark is never asked for
anything.
-/

namespace Dalvik

open Run History Hierarchy

/-! ## Runs that do the same -/

namespace Run

variable {α β : Type} {I : Lineage → Prop}

/-- From every lineage that satisfies `I` the two runs do the same, and it satisfies `I` again. -/
def Coincide (I : Lineage → Prop) (action other : Run α) : Prop :=
  ∀ e, I e.lineage → other e = action e ∧ I (action e).2.lineage

theorem Keeps.coincide {action : Run α} (h : Keeps I action) : Coincide I action action :=
  fun e he => ⟨rfl, h e he⟩

theorem Coincide.bind {action other : Run α} {next next' : α → Run β} (h : Coincide I action other)
    (hnext : ∀ answer, Coincide I (next answer) (next' answer)) :
    Coincide I (action >>= next) (other >>= next') := by
  intro e he
  obtain ⟨hsame, hkept⟩ := h e he
  rw [bind_apply, bind_apply, hsame]
  generalize action e = out at hkept ⊢
  obtain ⟨failure | answer, later⟩ := out
  · exact ⟨rfl, hkept⟩
  · exact hnext answer later hkept

theorem Coincide.attempt {action other : Run α} (h : Coincide I action other) :
    Coincide I (Run.attempt action) (Run.attempt other) := by
  intro e he
  obtain ⟨hsame, hkept⟩ := h e he
  refine ⟨?_, hkept⟩
  show (Except.ok (other e).1, (other e).2) = (Except.ok (action e).1, (action e).2)
  rw [hsame]

/-- A script does the same if all that it may ask for is answered alike. -/
theorem Coincide.script {ρ : Type} {Answer : ρ → Type}
    {serve serve' : (request : ρ) → Run (Answer request)}
    (h : ∀ request, Coincide I (serve request) (serve' request)) (script : Script ρ Answer α) :
    Coincide I (script.run serve) (script.run serve') := by
  induction script with
  | done answer => exact (Keeps.pure answer).coincide
  | fail failure => exact (Keeps.throw failure).coincide
  | ask request next ih => exact (h request).attempt.bind ih

end Run

namespace StaticFields

variable {statics : StaticFields} {type : TypeDescriptor}

/-! ## The recursion -/

section Recursion

variable {prepare : TypeDescriptor → Run Bool}

/-- The recursion, down to a depth. The initializations below it are left to `deeper`. -/
def unrolled (statics : StaticFields) (deeper : TypeDescriptor → Run Bool) :
    Nat → TypeDescriptor → Run Bool
  | 0 => deeper
  | depth + 1 => statics.initializeWith (statics.unrolled deeper depth)

/-- The run leaves alone a class that is marked or not local. -/
def Idles (statics : StaticFields) (prepare : TypeDescriptor → Run Bool) : Prop :=
  ∀ type e, type ∉ statics.unmarked e.lineage → prepare type e = (.ok false, e)

theorem unrolled_initializeWith (deeper : TypeDescriptor → Run Bool) (depth : Nat) :
    statics.unrolled (statics.initializeWith deeper) depth =
      statics.unrolled deeper (depth + 1) := by
  induction depth with
  | zero => rfl
  | succ depth ih => rw [unrolled, ih, ← unrolled]

/-- What solves the equation of the recursion is left as it is when it is unrolled. -/
theorem unrolled_of_solution (h : prepare = statics.initializeWith prepare) (depth : Nat) :
    statics.unrolled prepare depth = prepare := by
  induction depth with
  | zero => rfl
  | succ depth ih => rw [unrolled, ih, ← h]

theorem initializeWithin_eq_unrolled (nesting : Nat) :
    statics.initializeWithin nesting = statics.unrolled (fun _ => pure false) nesting := by
  induction nesting with
  | zero => rfl
  | succ nesting ih =>
    rw [unrolled, ← ih]
    rfl

theorem idles_initializeWith (statics : StaticFields) (prepare : TypeDescriptor → Run Bool) :
    statics.Idles (statics.initializeWith prepare) := by
  intro type e h
  unfold initializeWith
  cases hfind : statics.program.find? type with
  | none => rfl
  | some definition =>
    have hmarked : e.lineage.isInitialized type = true := by
      refine eq_true_of_ne_false fun hunmarked => h (mem_unmarked.2 ⟨?_, hunmarked⟩)
      simp [Program.isLocal, hfind]
    show (mark type (.began type) >>= _) e = _
    rw [bind_apply, mark_apply, if_pos hmarked]
    rfl

theorem Idles.unrolled (h : statics.Idles prepare) (depth : Nat) :
    statics.Idles (statics.unrolled prepare depth) := by
  cases depth with
  | zero => exact h
  | succ depth => exact idles_initializeWith statics _

end Recursion

/-! ## What is under way -/

/-- The code that made `after` of `before` has ended all initializations that it began, and whenever
some of them were under way at once, they were those of different classes that were local and not
marked before. -/
structure Nests (statics : StaticFields) (before after : Lineage) : Prop where
  history : before.history <:+ after.history
  marks : ∀ type, before.isInitialized type = true → after.isInitialized type = true
  pending : History.pending after.history = History.pending before.history
  within : ∀ moment, before.history <:+ moment → moment <:+ after.history →
    ∃ inner, inner.Nodup ∧ inner ⊆ statics.unmarked before ∧
      History.pending moment = inner ++ History.pending before.history

section Nesting

variable {before lineage later : Lineage} {step : StaticStep}

/-- Code that takes no mark away leaves no more classes to mark. -/
theorem unmarked_sublist
    (h : ∀ type, before.isInitialized type = true → later.isInitialized type = true) :
    (statics.unmarked later).Sublist (statics.unmarked before) := by
  refine List.monotone_filter_right _ fun type hlater => ?_
  rw [Bool.not_eq_true'] at hlater ⊢
  exact eq_false_of_ne_true fun hbefore => by simp [h type hbefore] at hlater

theorem Nests.length_unmarked (h : Nests statics before later) :
    (statics.unmarked later).length ≤ (statics.unmarked before).length :=
  (unmarked_sublist h.marks).length_le

/-- Nothing that counts has happened. -/
theorem Nests.of_same (hhistory : later.history = lineage.history)
    (hmarks : ∀ type, later.isInitialized type = lineage.isInitialized type) :
    Nests statics lineage later where
  history := hhistory ▸ List.suffix_rfl
  marks type h := (hmarks type).trans h
  pending := by rw [hhistory]
  within moment hbefore hafter := by
    rw [hhistory] at hafter
    obtain rfl := hbefore.eq_of_length_le hafter.length_le
    exact ⟨[], List.nodup_nil, List.nil_subset _, rfl⟩

theorem Nests.refl (lineage : Lineage) : Nests statics lineage lineage :=
  .of_same rfl fun _ => rfl

/-- One more thing has happened, which neither begins nor ends an initialization. -/
theorem Nests.of_step (step : StaticStep) (hhistory : later.history = step :: lineage.history)
    (hpending : History.pending (step :: lineage.history) = History.pending lineage.history)
    (hmarks : ∀ type, later.isInitialized type = lineage.isInitialized type) :
    Nests statics lineage later where
  history := hhistory ▸ List.suffix_cons _ _
  marks type h := (hmarks type).trans h
  pending := by rw [hhistory, hpending]
  within moment hbefore hafter := by
    refine ⟨[], List.nodup_nil, List.nil_subset _, ?_⟩
    rw [hhistory, List.suffix_cons_iff] at hafter
    rcases hafter with rfl | hafter
    · exact hpending
    · rw [hbefore.eq_of_length_le hafter.length_le]
      rfl

theorem Nests.trans (h : Nests statics before lineage) (h' : Nests statics lineage later) :
    Nests statics before later where
  history := h.history.trans h'.history
  marks type hm := h'.marks type (h.marks type hm)
  pending := h'.pending.trans h.pending
  within moment hbefore hafter := by
    -- The moment lies in one of the two parts.
    rcases List.suffix_or_suffix_of_suffix hafter h'.history with hfirst | hsecond
    · exact h.within moment hbefore hfirst
    · obtain ⟨inner, hdistinct, hinner, hpending⟩ := h'.within moment hsecond hafter
      exact ⟨inner, hdistinct, List.Subset.trans hinner (unmarked_sublist h.marks).subset,
        h.pending ▸ hpending⟩

/-- The initialization of a class surrounds those that it brings about. -/
theorem Nests.enclose {e : Execution} {succeeded : Bool} (hnew : type ∈ statics.unmarked e.lineage)
    (h : Nests statics (begun type e).lineage later) :
    Nests statics e.lineage (later.record (.ended type succeeded)) := by
  have hbegun : (begun type e).lineage.history = .began type :: e.lineage.history :=
    congrArg (_ :: ·) (Lineage.history_mark e.lineage type)
  have hopen : History.pending (begun type e).lineage.history =
      type :: History.pending e.lineage.history := by rw [hbegun, History.pending]
  have hclosed : History.pending (later.record (.ended type succeeded)).history =
      History.pending e.lineage.history := by
    rw [Lineage.history_record, History.pending, h.pending, hopen, List.tail_cons]
  have hbefore : e.lineage.history <:+ later.history :=
    (hbegun ▸ List.suffix_cons _ _).trans h.history
  refine ⟨hbefore.trans (List.suffix_cons _ _), fun other hmarked => h.marks other ?_, hclosed,
    fun moment hafter hmoment => ?_⟩
  · show ((e.lineage.mark type).record (.began type)).isInitialized other = true
    simp [hmarked]
  rw [Lineage.history_record, List.suffix_cons_iff] at hmoment
  rcases hmoment with rfl | hmoment
  · exact ⟨[], List.nodup_nil, List.nil_subset _, hclosed⟩
  rcases List.suffix_or_suffix_of_suffix hmoment h.history with hfirst | hsecond
  · rw [hbegun, List.suffix_cons_iff] at hfirst
    rcases hfirst with rfl | hfirst
    · exact ⟨[type], List.nodup_singleton _, by simpa using hnew, rfl⟩
    · rw [hafter.eq_of_length_le hfirst.length_le]
      exact ⟨[], List.nodup_nil, List.nil_subset _, rfl⟩
  -- Inside, the class itself is under way below all others, and marked.
  · obtain ⟨inner, hdistinct, hinner, hpending⟩ := h.within moment hsecond hmoment
    rw [unmarked_begun] at hinner
    refine ⟨inner ++ [type], ?_, ?_, by rw [hpending, hopen]; simp⟩
    · refine List.nodup_append.2 ⟨hdistinct, List.nodup_singleton _, fun other hm last hlast => ?_⟩
      rw [List.mem_singleton.1 hlast]
      exact (mem_others.1 (hinner hm)).2
    · refine List.append_subset.2 ⟨fun other hm => (mem_others.1 (hinner hm)).1, ?_⟩
      simpa using hnew

theorem keeps_nests_step
    (h : ∀ history, History.pending (step :: history) = History.pending history) :
    Keeps (Nests statics before) (record step) :=
  fun _ he => he.trans (.of_step step rfl (h _) fun _ => rfl)

end Nesting

/-! ## Whoever initializes the classes -/

section Preparation

variable {prepare prepare' : TypeDescriptor → Run Bool} {before : Lineage}

theorem serveWith_coincide
    (h : ∀ type, Coincide (Nests statics before) (prepare type) (prepare' type))
    (request : StaticRequest) :
    Coincide (Nests statics before) (statics.serveWith prepare request)
      (statics.serveWith prepare' request) := by
  cases request with
  | read field =>
    refine .bind (Keeps.ofExcept _).coincide fun _ => .bind (h _) fun _ => ?_
    refine .bind Keeps.lineage.coincide fun _ => .bind ?_ fun _ => (Keeps.pure _).coincide
    exact (keeps_nests_step fun _ => rfl).coincide
  | write field value =>
    refine .bind (Keeps.ofExcept _).coincide fun _ => .bind (Keeps.ofExcept _).coincide fun _ => ?_
    refine .bind (h _) fun _ => Keeps.coincide fun _ he => ?_
    exact he.trans (.of_step (.wrote field value) rfl rfl fun _ => rfl)
  | initializeOnce type => exact h type
  | isInitialized type => exact (Keeps.bind .lineage fun _ => .pure _).coincide
  | depth => exact (Keeps.bind .frame fun _ => .pure _).coincide
  | parameter index => exact (Keeps.readParameter index).coincide
  | assignReturn value => exact (Keeps.assignReturn value).coincide
  | note text => exact (Keeps.note text).coincide
  | reserve count => exact Keeps.coincide fun _ he => he.trans (.of_same rfl fun _ => rfl)

theorem initializeMarked_coincide
    (h : ∀ type, Coincide (Nests statics before) (prepare type) (prepare' type))
    (definition : ClassDefinition) :
    Coincide (Nests statics before) (statics.initializeMarked prepare definition)
      (statics.initializeMarked prepare' definition) := by
  refine .bind ?_ fun _ => .bind ?_ fun _ => ?_
  · cases definition.parent with
    | none => exact (Keeps.pure ()).coincide
    | some parent => exact .bind (h parent) fun _ => (Keeps.pure ()).coincide
  · refine Keeps.coincide (.bind .frame fun _ => .bind (.report _) fun _ e he => he.trans ?_)
    exact .of_step (.seeded definition.name)
      (congrArg (_ :: ·) (Lineage.history_seed e.lineage definition)) rfl
      (Lineage.isInitialized_seed e.lineage definition)
  · unfold runInitializer
    cases statics.initializer with
    | none => exact (Keeps.pure ()).coincide
    | some initializer =>
      refine .bind (keeps_nests_step fun _ => rfl).coincide fun _ =>
        .bind (Coincide.script (serveWith_coincide h) _).attempt fun result => ?_
      cases result with
      | ok => exact (Keeps.pure ()).coincide
      | error failure => exact (Keeps.bind (.report _) fun _ => .throw _).coincide

/-- As soon as the recursion is unrolled as often as there are classes to mark, it makes no
difference what stands deeper, as long as that leaves other classes alone. -/
theorem unrolled_coincide (hidle : statics.Idles prepare) (hidle' : statics.Idles prepare')
    {bound depth depth' : Nat} (hdepth : bound ≤ depth) (hdepth' : bound ≤ depth')
    (type : TypeDescriptor) (e : Execution) (h : (statics.unmarked e.lineage).length ≤ bound) :
    statics.unrolled prepare' depth' type e = statics.unrolled prepare depth type e ∧
      Nests statics e.lineage (statics.unrolled prepare depth type e).2.lineage := by
  induction bound generalizing depth depth' type e with
  | zero =>
    have hnone : type ∉ statics.unmarked e.lineage := by
      rw [List.length_eq_zero_iff.1 (Nat.le_zero.1 h)]
      exact List.not_mem_nil
    rw [hidle.unrolled depth type e hnone, hidle'.unrolled depth' type e hnone]
    exact ⟨rfl, .refl _⟩
  | succ bound ih =>
    by_cases hnew : type ∈ statics.unmarked e.lineage
    · obtain ⟨depth, rfl⟩ := Nat.exists_eq_add_one.2 (Nat.zero_lt_of_lt hdepth)
      obtain ⟨depth', rfl⟩ := Nat.exists_eq_add_one.2 (Nat.zero_lt_of_lt hdepth')
      obtain ⟨hlocal, hunmarked⟩ := mem_unmarked.1 hnew
      obtain ⟨definition, hfind⟩ := Option.isSome_iff_exists.1 hlocal
      have hfewer : (statics.unmarked (begun type e).lineage).length ≤ bound := by
        have hlt := length_others_lt hnew
        rw [unmarked_begun]
        omega
      -- What is inside starts where the class is marked, so there is one class less to mark.
      have hinside : Coincide (Nests statics (begun type e).lineage)
          (statics.initializeMarked (statics.unrolled prepare depth) definition)
          (statics.initializeMarked (statics.unrolled prepare' depth') definition) := by
        refine initializeMarked_coincide (fun other now hnow => ?_) definition
        obtain ⟨hsame, hnests⟩ := ih (Nat.le_of_succ_le_succ hdepth)
          (Nat.le_of_succ_le_succ hdepth') other now (hnow.length_unmarked.trans hfewer)
        exact ⟨hsame, hnow.trans hnests⟩
      obtain ⟨hsame, hnests⟩ := hinside (begun type e) (.refl _)
      rw [unrolled, unrolled, initializeWith_of_unmarked hfind hunmarked,
        initializeWith_of_unmarked hfind hunmarked, hsame]
      exact ⟨rfl, hnests.enclose hnew⟩
    · rw [hidle.unrolled depth type e hnew, hidle'.unrolled depth' type e hnew]
      exact ⟨rfl, .refl _⟩

end Preparation

theorem unrolled_eq_initializeOnce {prepare : TypeDescriptor → Run Bool} {depth : Nat}
    (hidle : statics.Idles prepare) (type : TypeDescriptor) (e : Execution)
    (h : (statics.unmarked e.lineage).length ≤ depth) :
    statics.unrolled prepare depth type e = statics.initializeOnce type e ∧
      Nests statics e.lineage (statics.initializeOnce type e).2.lineage := by
  rw [initializeOnce, initializeWithin_eq_unrolled]
  exact unrolled_coincide (fun _ _ _ => rfl) hidle (statics.unmarked_length_le e.lineage) h type e
    le_rfl

/-- The equation of the recursion has one solution, what an initialization does. -/
theorem solution_iff {prepare : TypeDescriptor → Run Bool} :
    prepare = statics.initializeWith prepare ↔ prepare = statics.initializeOnce := by
  constructor
  · intro h
    have hidle : statics.Idles prepare := h ▸ idles_initializeWith statics prepare
    funext type e
    rw [← (unrolled_eq_initializeOnce hidle type e le_rfl).1, unrolled_of_solution h]
  · rintro rfl
    funext type e
    have hidle : statics.Idles fun _ => pure false := fun _ _ _ => rfl
    have hdeeper : statics.initializeWith statics.initializeOnce =
        statics.unrolled (fun _ => pure false) (statics.program.size + 1) := by
      rw [unrolled, ← initializeWithin_eq_unrolled]
      rfl
    rw [hdeeper]
    exact (unrolled_eq_initializeOnce hidle type e
      (Nat.le_succ_of_le (statics.unmarked_length_le e.lineage))).1.symm

/-- Every access and every initialization ends, whatever the classes extend and whatever the
initializers ask for. What initializes a class is the only solution of the equation that describes
it by itself, without a bound. From a lineage with `n` local classes that are not marked, nothing is
asked of an initialization that would stand inside `n + 1` others, whatever it would do. At any
moment on the way the initializations that have begun and not ended are those of different classes
among these `n`, so there are at most `n` of them; afterwards there are none. -/
theorem initializations_end (statics : StaticFields) :
    (∀ prepare, prepare = statics.initializeWith prepare ↔ prepare = statics.initializeOnce) ∧
    ∀ request e,
      (∀ deeper depth, (statics.unmarked e.lineage).length < depth →
        statics.serveWith (statics.unrolled deeper depth) request e = statics.serve request e) ∧
      (∀ moment, e.lineage.history <:+ moment →
        moment <:+ (statics.serve request e).2.lineage.history →
        ∃ inner, inner.Nodup ∧ inner ⊆ statics.unmarked e.lineage ∧
          inner.length ≤ (statics.unmarked e.lineage).length ∧
          pending moment = inner ++ pending e.lineage.history) ∧
      pending (statics.serve request e).2.lineage.history = pending e.lineage.history := by
  refine ⟨fun prepare => solution_iff, fun request e => ?_⟩
  have hserve (deeper : TypeDescriptor → Run Bool) {depth : Nat}
      (h : (statics.unmarked e.lineage).length < depth) :
      statics.serveWith (statics.unrolled deeper depth) request e = statics.serve request e ∧
        Nests statics e.lineage (statics.serve request e).2.lineage := by
    refine serveWith_coincide (fun type now hnow => ?_) request e (.refl _)
    obtain ⟨depth, rfl⟩ := Nat.exists_eq_add_one.2 (Nat.zero_lt_of_lt h)
    rw [← unrolled_initializeWith]
    have hidle := idles_initializeWith statics deeper
    obtain ⟨hsame, hnests⟩ := unrolled_eq_initializeOnce hidle type now
      (hnow.length_unmarked.trans (Nat.le_of_lt_succ h))
    exact ⟨hsame, hnow.trans hnests⟩
  obtain ⟨-, hnests⟩ := hserve statics.initializeOnce (Nat.lt_succ_self _)
  refine ⟨fun deeper depth h => (hserve deeper h).1, ?_, hnests.pending⟩
  intro moment hbefore hafter
  obtain ⟨inner, hdistinct, hinner, hpending⟩ := hnests.within moment hbefore hafter
  exact ⟨inner, hdistinct, hinner, (hdistinct.subperm hinner).length_le, hpending⟩

end StaticFields

end Dalvik
