import Dalvik.Proofs.Exploration.Paths
import Dalvik.Proofs.Isolation.Lineages

/-!
# Worlds that mirror each other

Two worlds have the same contexts, and the lineages of these are in the same state, but may have
other numbers. Then there is no difference between the two for whoever knows the contexts by their
names only: each operation is answered in the same way, and afterwards the worlds mirror each other
again. What else there is in the worlds does not matter, and is left alone.
-/

namespace Dalvik

open Run

namespace World

variable {α : Type} {machine : Machine} {world world' later later' : World} {name : String}
  {context context' : Context} {number : Nat} {lineage : Lineage}

/-! ## Lineages by number -/

theorem lineage_of_set (hlineages : later.lineages = world.lineages.set number lineage)
    (hnumber : number < world.lineages.length) (other : Nat) :
    later.lineage other = if other = number then lineage else world.lineage other := by
  by_cases h : other = number
  · subst h
    simp [World.lineage, List.getD, hlineages, hnumber]
  · simp [World.lineage, List.getD, hlineages, h, Ne.symm h]

theorem lineage_of_append (hlineages : later.lineages = world.lineages ++ [lineage])
    (hnumber : number < world.lineages.length) : later.lineage number = world.lineage number := by
  simp [World.lineage, List.getD, hlineages, List.getElem?_append_left hnumber]

theorem lineage_of_append_self (hlineages : later.lineages = world.lineages ++ [lineage]) :
    later.lineage world.lineages.length = lineage :=
  lineage_eq (hlineages ▸ List.getElem?_concat_length)

/-! ## Other identities -/

theorem resupply_of_le (h : world.lineages.length ≤ number) (supply : Supply) :
    world.resupply number supply = world := by
  unfold resupply
  rw [List.set_eq_of_length_le h]

theorem lineage_resupply_ne {other : Nat} (h : number ≠ other) (supply : Supply) (world : World) :
    (world.resupply number supply).lineage other = world.lineage other := by
  simp [World.lineage, resupply, List.getD, h]

theorem lineages_resupply (hlineages : later.lineages = world.lineages ++ [lineage])
    (supply : Supply) :
    (later.resupply world.lineages.length supply).lineages =
      world.lineages ++ [{ lineage with supply }] := by
  show later.lineages.set _ { later.lineage _ with supply } = _
  rw [lineage_of_append_self hlineages, hlineages]
  simp

/-! ## What mirrors what -/

/-- Two contexts of two worlds have the same frame, and their lineages are in the same state; and
another context of the one world shares the lineage just if its counterpart in the other does. -/
structure Twins (world world' : World) (context context' : Context) : Prop where
  frame : context'.frame = context.frame
  placed : context.lineage < world.lineages.length
  placed' : context'.lineage < world'.lineages.length
  lineage : world'.lineage context'.lineage = world.lineage context.lineage
  shared {name : String} {other other' : Context} :
    world.contexts.get? name = some other → world'.contexts.get? name = some other' →
    (other.lineage = context.lineage ↔ other'.lineage = context'.lineage)

/-- Every name stands for twins, or for nothing in either world. -/
def Mirrors (world world' : World) : Prop :=
  ∀ name, (world.contexts.get? name = none ∧ world'.contexts.get? name = none) ∨
    ∃ context context', world.contexts.get? name = some context ∧
      world'.contexts.get? name = some context' ∧ Twins world world' context context'

theorem Mirrors.absent (h : Mirrors world world') (hname : world.contexts.get? name = none) :
    world'.contexts.get? name = none := by
  rcases h name with ⟨-, hname'⟩ | ⟨context, context', hfound, -, -⟩
  · exact hname'
  · cases hname.symm.trans hfound

theorem Mirrors.present (h : Mirrors world world')
    (hname : world.contexts.get? name = some context) :
    ∃ context', world'.contexts.get? name = some context' ∧
      Twins world world' context context' := by
  rcases h name with ⟨hnone, -⟩ | ⟨found, context', hfound, hname', htwins⟩
  · cases hname.symm.trans hnone
  · cases hname.symm.trans hfound
    exact ⟨context', hname', htwins⟩

/-! ## What is done in both worlds -/

/-- Only the lineage of twins has changed, and in the same way. -/
theorem Twins.advance {other other' : Context} (h : Twins world world' context context')
    (hother : Twins world world' other other')
    (hshared : other.lineage = context.lineage ↔ other'.lineage = context'.lineage)
    (hlineages : later.lineages = world.lineages.set context.lineage lineage)
    (hlineages' : later'.lineages = world'.lineages.set context'.lineage lineage)
    (hcontexts : later.contexts = world.contexts)
    (hcontexts' : later'.contexts = world'.contexts) : Twins later later' other other' := by
  refine ⟨hother.frame, ?_, ?_, ?_, ?_⟩
  · rw [hlineages, List.length_set]
    exact hother.placed
  · rw [hlineages', List.length_set]
    exact hother.placed'
  · rw [lineage_of_set hlineages h.placed, lineage_of_set hlineages' h.placed']
    simp only [hshared, hother.lineage]
  · rw [hcontexts, hcontexts']
    exact hother.shared

theorem Twins.withFrame (h : Twins world world' context context') (frame : Frame) :
    Twins world world' { context with frame } { context' with frame } :=
  ⟨rfl, h.placed, h.placed', h.lineage, h.shared⟩

theorem Twins.setContext {other other' : Context} (h : Twins world world' context context')
    (hshared : other.lineage = context.lineage ↔ other'.lineage = context'.lineage)
    (name : String) :
    Twins (setContext name other world).2 (setContext name other' world').2 context context' := by
  refine ⟨h.frame, h.placed, h.placed', h.lineage, fun {third found found'} hfound hfound' => ?_⟩
  have hget : (world.contexts.insert name other).get? third = some found := hfound
  have hget' : (world'.contexts.insert name other').get? third = some found' := hfound'
  by_cases hname : name = third
  · subst hname
    rw [Table.get?_insert_self] at hget hget'
    cases hget
    cases hget'
    exact hshared
  · rw [Table.get?_insert_ne _ hname] at hget hget'
    exact h.shared hget hget'

theorem Twins.dropContext (h : Twins world world' context context') (name : String) :
    Twins (dropContext name world).2 (dropContext name world').2 context context' := by
  refine ⟨h.frame, h.placed, h.placed', h.lineage, fun {third found found'} hfound hfound' => ?_⟩
  have hget : (world.contexts.erase name).get? third = some found := hfound
  have hget' : (world'.contexts.erase name).get? third = some found' := hfound'
  rw [Table.get?_erase] at hget hget'
  split at hget
  · cases hget
  · rename_i hname
    rw [if_neg hname] at hget'
    exact h.shared hget hget'

theorem Mirrors.setContext (h : Mirrors world world') (htwins : Twins world world' context context')
    (name : String) :
    Mirrors (setContext name context world).2 (setContext name context' world').2 := by
  intro other
  by_cases hname : name = other
  · subst hname
    exact .inr ⟨context, context', Table.get?_insert_self .., Table.get?_insert_self ..,
      htwins.setContext (iff_of_true rfl rfl) name⟩
  · have hget : (World.setContext name context world).2.contexts.get? other =
        world.contexts.get? other := Table.get?_insert_ne _ hname _
    have hget' : (World.setContext name context' world').2.contexts.get? other =
        world'.contexts.get? other := Table.get?_insert_ne _ hname _
    rw [hget, hget']
    rcases h other with hnone | ⟨found, found', hfound, hfound', hothers⟩
    · exact .inl hnone
    · refine .inr ⟨found, found', hfound, hfound', hothers.setContext ?_ name⟩
      rw [eq_comm, htwins.shared hfound hfound', eq_comm]

theorem Mirrors.dropContext (h : Mirrors world world') (name : String) :
    Mirrors (dropContext name world).2 (dropContext name world').2 := by
  intro other
  have hget : (World.dropContext name world).2.contexts.get? other =
      if other = name then none else world.contexts.get? other := Table.get?_erase ..
  have hget' : (World.dropContext name world').2.contexts.get? other =
      if other = name then none else world'.contexts.get? other := Table.get?_erase ..
  rw [hget, hget']
  split
  · exact .inl ⟨rfl, rfl⟩
  · rcases h other with hnone | ⟨found, found', hfound, hfound', htwins⟩
    · exact .inl hnone
    · exact .inr ⟨found, found', hfound, hfound', htwins.dropContext name⟩

theorem Mirrors.congr (h : Mirrors world world') (hcontexts : later.contexts = world.contexts)
    (hcontexts' : later'.contexts = world'.contexts)
    (htwins : ∀ name context context', world.contexts.get? name = some context →
      world'.contexts.get? name = some context' → Twins world world' context context' →
      Twins later later' context context') : Mirrors later later' := by
  intro name
  rw [hcontexts, hcontexts']
  rcases h name with hnone | ⟨found, found', hfound, hfound', hboth⟩
  · exact .inl hnone
  · exact .inr ⟨found, found', hfound, hfound', htwins name found found' hfound hfound' hboth⟩

/-- What code leaves behind that ended like this in a context. -/
def leave (context : Context) (out : Except Failure α × Execution) (world : World) :
    (Except Failure α × Context) × World :=
  ((out.1, { context with frame := out.2.frame }), { world with
    lineages := world.lineages.set context.lineage out.2.lineage
    log := world.log ++ out.2.log
    notes := world.notes ++ out.2.notes })

theorem runIn_eq_leave (context : Context) (action : Run α) (world : World) :
    runIn context action world =
      leave context (action (.ofFrame context.frame (world.lineage context.lineage))) world :=
  rfl

/-- Code that runs in twins ends in the same way. -/
theorem Mirrors.runIn (h : Mirrors world world') (htwins : Twins world world' context context')
    (action : Run α) :
    (runIn context' action world').1.1 = (runIn context action world).1.1 ∧
      Mirrors (runIn context action world).2 (runIn context' action world').2 ∧
      Twins (runIn context action world).2 (runIn context' action world').2
        (runIn context action world).1.2 (runIn context' action world').1.2 := by
  rw [runIn_eq_leave, runIn_eq_leave, htwins.frame, htwins.lineage]
  generalize action (.ofFrame context.frame (world.lineage context.lineage)) = out
  refine ⟨rfl, h.congr rfl rfl fun name other other' hother hother' hothers => ?_, ?_⟩
  · exact htwins.advance hothers (htwins.shared hother hother') rfl rfl rfl rfl
  · have hleft : Twins (leave context out world).2 (leave context' out world').2 context context' :=
      htwins.advance htwins (iff_of_true rfl rfl) rfl rfl rfl rfl
    exact hleft.withFrame out.2.frame

/-- Each world has got one more lineage, in the same state. -/
theorem Twins.extend (h : Twins world world' context context')
    (hlineages : later.lineages = world.lineages ++ [lineage])
    (hlineages' : later'.lineages = world'.lineages ++ [lineage])
    (hcontexts : later.contexts = world.contexts)
    (hcontexts' : later'.contexts = world'.contexts) : Twins later later' context context' := by
  refine ⟨h.frame, ?_, ?_, ?_, ?_⟩
  · rw [hlineages, List.length_append]
    exact Nat.lt_add_right _ h.placed
  · rw [hlineages', List.length_append]
    exact Nat.lt_add_right _ h.placed'
  · rw [lineage_of_append hlineages h.placed, lineage_of_append hlineages' h.placed']
    exact h.lineage
  · rw [hcontexts, hcontexts']
    exact h.shared

/-- The first contexts of new lineages are twins. -/
theorem Mirrors.twins_extend (h : Mirrors world world')
    (hlineages : later.lineages = world.lineages ++ [lineage])
    (hlineages' : later'.lineages = world'.lineages ++ [lineage])
    (hcontexts : later.contexts = world.contexts)
    (hcontexts' : later'.contexts = world'.contexts) (frame : Frame) :
    Twins later later' ⟨frame, world.lineages.length⟩ ⟨frame, world'.lineages.length⟩ := by
  refine ⟨rfl, ?_, ?_, ?_, fun {name other other'} hother hother' => ?_⟩
  · simp [hlineages]
  · simp [hlineages']
  · rw [lineage_of_append_self hlineages, lineage_of_append_self hlineages']
  · rw [hcontexts] at hother
    rw [hcontexts'] at hother'
    obtain ⟨found, hfound, htwins⟩ := h.present hother
    cases hother'.symm.trans hfound
    exact iff_of_false (Nat.ne_of_lt htwins.placed) (Nat.ne_of_lt htwins.placed')

theorem Mirrors.extend (h : Mirrors world world')
    (hlineages : later.lineages = world.lineages ++ [lineage])
    (hlineages' : later'.lineages = world'.lineages ++ [lineage])
    (hcontexts : later.contexts = world.contexts)
    (hcontexts' : later'.contexts = world'.contexts) : Mirrors later later' :=
  h.congr hcontexts hcontexts' fun _ _ _ _ _ htwins =>
    htwins.extend hlineages hlineages' hcontexts hcontexts'

/-! ## Operations -/

/-- The operation is answered in the same way in both worlds, which mirror each other afterwards. -/
def AnswersAlike (machine : Machine) (supply : Supply) (operation : Operation)
    (world world' : World) : Prop :=
  (performWith machine supply operation world').1 =
      (performWith machine supply operation world).1 ∧
    Mirrors (performWith machine supply operation world).2
      (performWith machine supply operation world').2

/-- If no lineage is made, there is nothing to give out other identities. -/
theorem answersAlike_of_perform {supply : Supply} {operation : Operation}
    {out out' : Option (Except Failure Reply) × World}
    (hperform : World.perform machine operation world = out)
    (hperform' : World.perform machine operation world' = out')
    (hlength : out.2.lineages.length = world.lineages.length)
    (hlength' : out'.2.lineages.length = world'.lineages.length)
    (hanswer : out'.1 = out.1) (hmirrors : Mirrors out.2 out'.2) :
    AnswersAlike machine supply operation world world' := by
  unfold AnswersAlike performWith
  rw [hperform, hperform', resupply_of_le (Nat.le_of_eq hlength),
    resupply_of_le (Nat.le_of_eq hlength')]
  exact ⟨hanswer, hmirrors⟩

theorem answersAlike_of_absent {supply : Supply} {operation : Operation}
    (h : Mirrors world world') (hneeds : name ∈ operation.needs)
    (hname : world.contexts.get? name = none) :
    AnswersAlike machine supply operation world world' :=
  answersAlike_of_perform (perform_of_absent hneeds hname)
    (perform_of_absent hneeds (h.absent hname)) rfl rfl rfl h

theorem answersAlike_openContext {supply : Supply} (h : Mirrors world world') (name : String)
    (config : Config) (registers : Registers) :
    AnswersAlike machine supply (.openContext name config registers) world world' := by
  have hopened (world : World) : (World.openContext config registers world).2.lineages =
      world.lineages ++ [.start world.freshSupply] := rfl
  have hlineages := lineages_resupply (hopened world) supply
  have hlineages' := lineages_resupply (hopened world') supply
  have hroot := h.twins_extend hlineages hlineages' rfl rfl (Frame.root config registers)
  exact ⟨rfl, (h.extend hlineages hlineages' rfl rfl).setContext hroot name⟩

theorem answersAlike_fork {supply : Supply} (h : Mirrors world world') (origin copy : String) :
    AnswersAlike machine supply (.fork origin copy) world world' := by
  cases hname : world.contexts.get? origin with
  | none => exact answersAlike_of_absent h (List.mem_singleton_self origin) hname
  | some context =>
    obtain ⟨context', hname', htwins⟩ := h.present hname
    have hforked (context : Context) (world : World) : (World.fork context world).2.lineages =
        world.lineages ++ [{ world.lineage context.lineage with supply := world.freshSupply }] :=
      rfl
    have hlineages := lineages_resupply (hforked context world) supply
    have hlineages' := lineages_resupply (hforked context' world') supply
    rw [htwins.lineage] at hlineages'
    have hcopy := h.twins_extend hlineages hlineages' rfl rfl context.frame
    have hmirrors := (h.extend hlineages hlineages' rfl rfl).setContext hcopy copy
    unfold AnswersAlike performWith
    rw [perform_fork hname, perform_fork hname', htwins.frame]
    exact ⟨rfl, hmirrors⟩

theorem answersAlike_act {supply : Supply} (h : Mirrors world world') (name : String)
    (action : Action) : AnswersAlike machine supply (.act name action) world world' := by
  cases hname : world.contexts.get? name with
  | none => exact answersAlike_of_absent h (List.mem_singleton_self name) hname
  | some context =>
    obtain ⟨context', hname', htwins⟩ := h.present hname
    obtain ⟨hanswer, hmirrors, hleft⟩ := h.runIn htwins (machine.act action)
    refine answersAlike_of_perform (perform_act hname action) (perform_act hname' action) ?_ ?_
      (congrArg some hanswer) (hmirrors.setContext hleft name)
    · exact length_runIn context (machine.act action) world
    · exact length_runIn context' (machine.act action) world'

theorem answersAlike_spawn {supply : Supply} (h : Mirrors world world')
    (parent child method : String) (registers : Registers) :
    AnswersAlike machine supply (.spawn parent child method registers) world world' := by
  cases hname : world.contexts.get? parent with
  | none => exact answersAlike_of_absent h (List.mem_singleton_self parent) hname
  | some context =>
    obtain ⟨context', hname', htwins⟩ := h.present hname
    obtain ⟨-, hmirrors, hleft⟩ := h.runIn htwins (Run.call method registers)
    have hlength := length_runIn context (Run.call method registers) world
    have hlength' := length_runIn context' (Run.call method registers) world'
    cases hcall : context.frame.call method registers with
    | error fault =>
      exact answersAlike_of_perform (perform_spawn_error hname hcall child)
        (perform_spawn_error hname' (htwins.frame ▸ hcall) child) hlength hlength' rfl hmirrors
    | ok callee =>
      exact answersAlike_of_perform (perform_spawn_ok hname hcall child)
        (perform_spawn_ok hname' (htwins.frame ▸ hcall) child) hlength hlength' rfl
        (hmirrors.setContext (hleft.withFrame callee) child)

theorem answersAlike_join {supply : Supply} (h : Mirrors world world') (parent child : String) :
    AnswersAlike machine supply (.join parent child) world world' := by
  by_cases hsame : parent = child
  · subst hsame
    exact answersAlike_of_perform (perform_join_self parent world) (perform_join_self parent world')
      rfl rfl rfl h
  cases hname : world.contexts.get? parent with
  | none => exact answersAlike_of_absent h (List.mem_pair.2 (.inl rfl)) hname
  | some context =>
    cases hchild : world.contexts.get? child with
    | none => exact answersAlike_of_absent h (List.mem_pair.2 (.inr rfl)) hchild
    | some callee =>
      obtain ⟨context', hname', htwins⟩ := h.present hname
      obtain ⟨callee', hchild', hcallees⟩ := h.present hchild
      have hperform' : World.perform machine (.join parent child) world' = _ :=
        perform_join hname' hchild' hsame
      rw [htwins.frame, hcallees.frame] at hperform'
      obtain ⟨-, hmirrors, hleft⟩ := (h.dropContext child).runIn (htwins.dropContext child)
        (Run.join callee.frame)
      have hlength := length_runIn context (Run.join callee.frame) (World.dropContext child world).2
      have hlength' := length_runIn context' (Run.join callee.frame)
        (World.dropContext child world').2
      exact answersAlike_of_perform (perform_join hname hchild hsame) hperform' hlength hlength' rfl
        (hmirrors.setContext (hleft.withFrame _) parent)

/-- Nothing depends on the numbers of the lineages. -/
theorem Mirrors.performWith (h : Mirrors world world') (machine : Machine) (supply : Supply)
    (operation : Operation) : AnswersAlike machine supply operation world world' := by
  cases operation with
  | openContext name config registers => exact answersAlike_openContext h name config registers
  | act name action => exact answersAlike_act h name action
  | spawn parent child method registers => exact answersAlike_spawn h parent child method registers
  | fork origin copy => exact answersAlike_fork h origin copy
  | join parent child => exact answersAlike_join h parent child
  | drop name => exact answersAlike_of_perform rfl rfl rfl rfl rfl (h.dropContext name)

/-! ## What is left alone -/

/-- No context belongs to the lineage. -/
def Vacant (world : World) (number : Nat) : Prop :=
  ∀ name, (world.view number).frames name = none

theorem Vacant.ne (h : Vacant world number) (hname : world.contexts.get? name = some context) :
    context.lineage ≠ number := by
  intro hown
  have hnone := h name
  rw [frames_of_some number hname, frameIn_own hown] at hnone
  cases hnone

theorem vacant_of_ne (h : ∀ name context, world.contexts.get? name = some context →
    context.lineage ≠ number) : Vacant world number := by
  intro name
  cases hname : world.contexts.get? name with
  | none => exact frames_of_none number hname
  | some context => rw [frames_of_some number hname, frameIn_foreign (h name context hname)]

/-- Nothing can be done to a lineage to which no context belongs. -/
theorem Vacant.deed? (h : Vacant world number) (operation : Operation) :
    world.deed? number operation = none := by
  have hloss (name : String) : (world.view number).loss? name = none := by
    unfold View.loss?
    rw [h name]
    rfl
  cases operation with
  | openContext name | drop name => exact hloss name
  | act name action => simp [World.deed?, h name]
  | spawn parent child method registers =>
    cases hname : world.contexts.get? parent with
    | none => simp [World.deed?, hname]
    | some context => simp [World.deed?, hname, h.ne hname, hloss]
  | fork origin copy => simp [World.deed?, hloss]
  | join parent child =>
    cases hname : world.contexts.get? parent with
    | none => simp [World.deed?, hname]
    | some context =>
      cases hchild : world.contexts.get? child with
      | none => simp [World.deed?, hname, hchild]
      | some callee =>
        by_cases hsame : parent = child
        · simp [World.deed?, hchild, hsame]
        · simp [World.deed?, hname, hchild, hsame, h.ne hname, hloss]

/-- An operation leaves a lineage alone to which no context belongs, and none does afterwards. -/
theorem Vacant.performWith (h : Vacant world number) (hnumber : number < world.lineages.length)
    (machine : Machine) (supply : Supply) (operation : Operation) :
    Vacant (performWith machine supply operation world).2 number ∧
      (performWith machine supply operation world).2.lineage number = world.lineage number := by
  have hview := view_of_no_deed machine hnumber (h.deed? operation)
  refine ⟨fun name => ?_, ?_⟩
  · have hframes := congrArg (View.frames · name) hview
    exact hframes.trans (h name)
  · have hother := lineage_resupply_ne (Nat.ne_of_gt hnumber) supply
      (World.perform machine operation world).2
    exact hother.trans (congrArg View.lineage hview)

theorem length_le_performWith (machine : Machine) (supply : Supply) (operation : Operation)
    (world : World) :
    world.lineages.length ≤ (performWith machine supply operation world).2.lineages.length := by
  show _ ≤ (List.set _ _ _).length
  rw [List.length_set]
  exact length_le_perform machine operation world

/-- The contexts belong to lineages that exist. -/
theorem Mirrors.placed (h : Mirrors world world') (hnumber : ¬ Vacant world' number) :
    number < world'.lineages.length := by
  by_contra hbeyond
  refine hnumber (vacant_of_ne fun name context hname => ?_)
  rcases h name with ⟨-, hnone⟩ | ⟨other, found, hother, hfound, htwins⟩
  · cases hname.symm.trans hnone
  · cases hname.symm.trans hfound
    exact fun hsame => hbeyond (hsame ▸ htwins.placed')

/-- What is changed in one of the worlds apart from the lineages of its contexts does not matter. -/
theorem Mirrors.elsewhere (h : Mirrors world world') (hcontexts : later'.contexts = world'.contexts)
    (hlength : world'.lineages.length ≤ later'.lineages.length)
    (hlineages : ∀ number, ¬ Vacant world' number → later'.lineage number = world'.lineage number) :
    Mirrors world later' := by
  refine h.congr rfl hcontexts fun name context context' _ hname' htwins => ?_
  refine ⟨htwins.frame, htwins.placed, Nat.lt_of_lt_of_le htwins.placed' hlength, ?_, ?_⟩
  · rw [hlineages _ fun hvacant => hvacant.ne hname' rfl]
    exact htwins.lineage
  · rw [hcontexts]
    exact htwins.shared

theorem Mirrors.refl (h : ∀ name context, world.contexts.get? name = some context →
    context.lineage < world.lineages.length) : Mirrors world world := by
  intro name
  cases hname : world.contexts.get? name with
  | none => exact .inl ⟨rfl, rfl⟩
  | some context =>
    refine .inr ⟨context, context, rfl, rfl, rfl, h name context hname, h name context hname, rfl,
      fun {other found found'} hfound hfound' => ?_⟩
    cases hfound.symm.trans hfound'
    rfl

end World

end Dalvik
