import Dalvik.Proofs.Operations
import Mathlib.Logic.Function.Basic

/-!
# Views of one lineage

What there is to see of one lineage of a world: the state that its contexts share, and their frames.
An operation on the world is a deed on the lineage if it concerns one of its contexts. What a deed
answers and makes of the view depends on the view alone, and what is no deed leaves the view alone.
-/

namespace Dalvik

open Run

/-- The frame of a context, if it belongs to this lineage. -/
def Context.frameIn (context : Context) (number : Nat) : Option Frame :=
  if context.lineage = number then some context.frame else none

/-- One lineage: its state, and the frames of its contexts by name. -/
@[ext]
structure View where
  lineage : Lineage
  frames : String → Option Frame

/-- Something that is done to one lineage. To `receive` is to join a context of another lineage, of
which only the result is known; to `lose` is that a name no longer stands for a context of the
lineage, because it is dropped, joined to another lineage or given to another context. -/
inductive Deed where
  | act (name : String) (action : Action)
  | spawn (parent child method : String) (registers : Registers)
  | join (parent child : String)
  | receive (parent : String) (result : Option Value)
  | lose (name : String)

namespace View

/-- The view in which a name stands for this frame, or for none. -/
def setFrame (view : View) (name : String) (frame : Option Frame) : View :=
  { view with frames := Function.update view.frames name frame }

/-- The answer of a deed, and the view after it. -/
def perform (machine : Machine) (view : View) : Deed → Option (Except Failure Reply) × View
  | .act name action =>
    match view.frames name with
    | none => (none, view)
    | some frame =>
      let out := machine.act action (.ofFrame frame view.lineage)
      (some out.1, setFrame { view with lineage := out.2.lineage } name (some out.2.frame))
  | .spawn parent child method registers =>
    match view.frames parent with
    | none => (none, view)
    | some frame =>
      match frame.call method registers with
      | .error fault => (some (.error (.fault fault)), view)
      | .ok callee => (some (.ok .none), view.setFrame child (some callee))
  | .join parent child =>
    match view.frames parent, view.frames child with
    | some frame, some callee =>
      (some (.ok .none), (view.setFrame child none).setFrame parent
        (some (frame.receiving callee.registers.returnValue)))
    | _, _ => (none, view)
  | .receive parent result =>
    match view.frames parent with
    | none => (none, view)
    | some frame => (some (.ok .none), view.setFrame parent (some (frame.receiving result)))
  | .lose name => (some (.ok .none), view.setFrame name none)

/-- A name is lost if it stands for a context of the lineage. -/
def loss? (view : View) (name : String) : Option Deed :=
  if (view.frames name).isSome then some (.lose name) else none

theorem setFrame_none {view : View} {name : String} (h : view.frames name = none) :
    view.setFrame name none = view := by
  ext1
  · rfl
  · exact (congrArg _ h.symm).trans (Function.update_eq_self name view.frames)

theorem frames_setFrame_self (view : View) (name : String) (frame : Option Frame) :
    (view.setFrame name frame).frames name = frame := by
  unfold setFrame
  exact Function.update_self _ _ _

theorem frames_setFrame_ne (view : View) {name other : String} (frame : Option Frame)
    (h : other ≠ name) : (view.setFrame name frame).frames other = view.frames other := by
  unfold setFrame
  exact Function.update_of_ne h _ _

end View

namespace World

variable {α : Type} {machine : Machine} {world later : World} {number : Nat} {name : String}
  {context : Context}

/-- What there is to see of a lineage. -/
def view (world : World) (number : Nat) : View where
  lineage := world.lineage number
  frames name := (world.contexts.get? name).bind fun context => context.frameIn number

/-- What an operation does to a lineage; `none` if it does nothing to it. -/
def deed? (world : World) (number : Nat) : Operation → Option Deed
  | .openContext name _ _ | .drop name => (world.view number).loss? name
  | .act name action =>
    if ((world.view number).frames name).isSome then some (.act name action) else none
  | .spawn parent child method registers =>
    match world.contexts.get? parent with
    | none => none
    | some context =>
      if context.lineage = number then some (.spawn parent child method registers)
      else if (context.frame.call method registers).isOk then (world.view number).loss? child
      else none
  | .fork origin copy =>
    if (world.contexts.get? origin).isSome then (world.view number).loss? copy else none
  | .join parent child =>
    match world.contexts.get? parent, world.contexts.get? child, decide (parent = child) with
    | some context, some callee, false =>
      if context.lineage = number then
        if callee.lineage = number then some (.join parent child)
        else some (.receive parent callee.frame.registers.returnValue)
      else (world.view number).loss? child
    | _, _, _ => none

/-! ## Who belongs to a lineage -/

theorem frames_of_some (number : Nat) (hname : world.contexts.get? name = some context) :
    (world.view number).frames name = context.frameIn number := by
  simp [view, hname]

theorem frames_of_none (number : Nat) (hname : world.contexts.get? name = none) :
    (world.view number).frames name = none := by
  simp [view, hname]

theorem frameIn_own (hown : context.lineage = number) :
    context.frameIn number = some context.frame :=
  if_pos hown

theorem frameIn_foreign (hforeign : context.lineage ≠ number) : context.frameIn number = none :=
  if_neg hforeign

/-! ## What is done to a view -/

/-- If only one name stands for something else, that is all that has changed. -/
theorem view_eq_setFrame (hlineages : later.lineages = world.lineages)
    (hothers : ∀ other, other ≠ name → later.contexts.get? other = world.contexts.get? other) :
    later.view number = (world.view number).setFrame name ((later.view number).frames name) := by
  ext1
  · simp [World.view, World.lineage, View.setFrame, hlineages]
  · funext other
    by_cases h : other = name
    · subst h
      exact (View.frames_setFrame_self _ _ _).symm
    · rw [View.frames_setFrame_ne _ _ h]
      simp [view, hothers other h]

theorem view_setContext (world : World) (number : Nat) (name : String) (context : Context) :
    (setContext name context world).2.view number =
      (world.view number).setFrame name (context.frameIn number) := by
  have hothers (other : String) (h : other ≠ name) :
      (setContext name context world).2.contexts.get? other = world.contexts.get? other :=
    Table.get?_insert_ne _ (Ne.symm h) _
  have hview : (setContext name context world).2.view number =
      (world.view number).setFrame name _ := view_eq_setFrame rfl hothers
  exact hview.trans (congrArg _ (frames_of_some number (Table.get?_insert_self ..)))

theorem view_dropContext (world : World) (number : Nat) (name : String) :
    (dropContext name world).2.view number = (world.view number).setFrame name none := by
  have hothers (other : String) (h : other ≠ name) :
      (dropContext name world).2.contexts.get? other = world.contexts.get? other :=
    (Table.get?_erase ..).trans (if_neg h)
  have hview : (dropContext name world).2.view number = (world.view number).setFrame name _ :=
    view_eq_setFrame rfl hothers
  exact hview.trans (congrArg _ (frames_of_none number ((Table.get?_erase ..).trans (if_pos rfl))))

/-- Code in a context of the lineage may change the state that its contexts share. -/
theorem view_runIn_own (hnumber : number < world.lineages.length)
    (hown : context.lineage = number) (action : Run α) :
    (runIn context action world).2.view number = { world.view number with
      lineage := (action (.ofFrame context.frame (world.lineage number))).2.lineage } := by
  subst hown
  ext1
  · show (world.lineages.set context.lineage _).getD context.lineage _ = _
    simp [List.getD, hnumber]
  · rfl

theorem view_runIn_foreign (hforeign : context.lineage ≠ number) (action : Run α)
    (world : World) : (runIn context action world).2.view number = world.view number := by
  ext1
  · show (world.lineages.set context.lineage _).getD number _ = _
    simp [World.view, World.lineage, List.getD, hforeign]
  · rfl

/-- Code that leaves its lineage as it is only has an effect on its frame. -/
theorem view_runIn_of_keeps {action : Run α} (h : ∀ lineage, Keeps (· = lineage) action)
    (context : Context) (world : World) (number : Nat) :
    (runIn context action world).2.view number = world.view number := by
  ext1
  · show List.getD _ _ _ = _
    rw [lineages_runIn_of_keeps h]
    rfl
  · rfl

/-- After code in a context of the lineage, a name stands for a context of it. -/
theorem view_runIn_setContext_own (hnumber : number < world.lineages.length)
    (hown : context.lineage = number) (action : Run α) (name : String) (frame : Frame) :
    (setContext name { context with frame } (runIn context action world).2).2.view number =
      View.setFrame { world.view number with
        lineage := (action (.ofFrame context.frame (world.lineage number))).2.lineage }
        name (some frame) := by
  rw [view_setContext, view_runIn_own hnumber hown]
  exact congrArg _ (if_pos hown)

theorem view_runIn_setContext_foreign (hforeign : context.lineage ≠ number) (action : Run α)
    (world : World) (name : String) (frame : Frame) :
    (setContext name { context with frame } (runIn context action world).2).2.view number =
      (world.view number).setFrame name none := by
  rw [view_setContext, view_runIn_foreign hforeign]
  exact congrArg _ (if_neg hforeign)

/-- A new lineage does not concern the others. -/
theorem view_extend {lineage : Lineage} (hnumber : number < world.lineages.length)
    (hlineages : later.lineages = world.lineages ++ [lineage])
    (hcontexts : later.contexts = world.contexts) : later.view number = world.view number := by
  ext1
  · simp [World.view, World.lineage, List.getD, hlineages, List.getElem?_append_left hnumber]
  · simp [World.view, hcontexts]

/-! ## Deeds -/

theorem deed?_of_absent {operation : Operation} (hneeds : name ∈ operation.needs)
    (hname : world.contexts.get? name = none) : world.deed? number operation = none := by
  cases operation with
  | openContext | drop => cases hneeds
  | act other action =>
    obtain rfl := List.mem_singleton.1 hneeds
    simp [deed?, frames_of_none number hname]
  | spawn other child method registers | fork other copy =>
    obtain rfl := List.mem_singleton.1 hneeds
    simp [deed?, hname]
  | join parent child =>
    rcases List.mem_pair.1 hneeds with rfl | rfl
    · simp [deed?, hname]
    · cases hparent : world.contexts.get? parent <;> simp [deed?, hname, hparent]

/-- What an operation answers, and what there is to see of the lineage after it. -/
def observe (machine : Machine) (number : Nat) (operation : Operation) (world : World) :
    Option (Except Failure Reply) × View :=
  ((World.perform machine operation world).1,
    (World.perform machine operation world).2.view number)

/-- If the operation is a deed on the lineage, that deed is all there is to see of it; if it is
none, there is nothing to see of it. -/
def Follows (machine : Machine) (number : Nat) (world : World) (operation : Operation) : Prop :=
  match world.deed? number operation with
  | some deed => observe machine number operation world = (world.view number).perform machine deed
  | none => (observe machine number operation world).2 = world.view number

theorem follows_of_deed {operation : Operation} {deed : Deed}
    (hdeed : world.deed? number operation = some deed)
    (h : observe machine number operation world = (world.view number).perform machine deed) :
    Follows machine number world operation := by
  unfold Follows
  rw [hdeed]
  exact h

theorem follows_of_none {operation : Operation} (hdeed : world.deed? number operation = none)
    (h : (World.perform machine operation world).2.view number = world.view number) :
    Follows machine number world operation := by
  unfold Follows
  rw [hdeed]
  exact h

theorem follows_of_absent {operation : Operation} (hneeds : name ∈ operation.needs)
    (hname : world.contexts.get? name = none) : Follows machine number world operation :=
  follows_of_none (deed?_of_absent hneeds hname) (by rw [perform_of_absent hneeds hname])

theorem follows_of_loss {operation : Operation}
    (hdeed : world.deed? number operation = (world.view number).loss? name)
    (h : observe machine number operation world =
      (some (.ok .none), (world.view number).setFrame name none)) :
    Follows machine number world operation := by
  unfold View.loss? at hdeed
  cases hframe : (world.view number).frames name with
  | none =>
    rw [hframe] at hdeed
    exact follows_of_none hdeed ((congrArg Prod.snd h).trans (View.setFrame_none hframe))
  | some frame =>
    rw [hframe] at hdeed
    exact follows_of_deed hdeed h

theorem follows_openContext (hnumber : number < world.lineages.length) (name : String)
    (config : Config) (registers : Registers) :
    Follows machine number world (.openContext name config registers) := by
  have hextend : (World.openContext config registers world).2.view number = world.view number :=
    view_extend hnumber rfl rfl
  have hset := view_setContext (World.openContext config registers world).2 number name
    ⟨.root config registers, world.lineages.length⟩
  rw [frameIn_foreign (Nat.ne_of_gt hnumber), hextend] at hset
  exact follows_of_loss rfl (Prod.ext rfl hset)

theorem follows_drop (name : String) : Follows machine number world (.drop name) :=
  follows_of_loss rfl (Prod.ext rfl (view_dropContext world number name))

theorem follows_fork (hnumber : number < world.lineages.length) (origin copy : String) :
    Follows machine number world (.fork origin copy) := by
  cases hname : world.contexts.get? origin with
  | none => exact follows_of_absent (List.mem_singleton_self origin) hname
  | some context =>
    have hextend : (World.fork context world).2.view number = world.view number :=
      view_extend hnumber rfl rfl
    have hset := view_setContext (World.fork context world).2 number copy
      ⟨context.frame, world.lineages.length⟩
    rw [frameIn_foreign (Nat.ne_of_gt hnumber), hextend] at hset
    refine follows_of_loss (by simp [deed?, hname]; rfl) ?_
    unfold observe
    rw [perform_fork hname]
    exact Prod.ext rfl hset

theorem follows_act (hnumber : number < world.lineages.length) (name : String) (action : Action) :
    Follows machine number world (.act name action) := by
  cases hname : world.contexts.get? name with
  | none => exact follows_of_absent (List.mem_singleton_self name) hname
  | some context =>
    have hframe := frames_of_some number hname
    by_cases hown : context.lineage = number
    · rw [frameIn_own hown] at hframe
      refine follows_of_deed (by simp [deed?, hframe]; rfl) ?_
      simp only [observe, perform_act hname, View.perform, hframe]
      subst hown
      exact Prod.ext rfl (view_runIn_setContext_own hnumber rfl (machine.act action) name _)
    · rw [frameIn_foreign hown] at hframe
      refine follows_of_none (by simp [deed?, hframe]) ?_
      rw [perform_act hname]
      exact (view_runIn_setContext_foreign hown (machine.act action) world name _).trans
        (View.setFrame_none hframe)

theorem follows_spawn (parent child method : String) (registers : Registers) :
    Follows machine number world (.spawn parent child method registers) := by
  cases hname : world.contexts.get? parent with
  | none => exact follows_of_absent (List.mem_singleton_self parent) hname
  | some context =>
    have hframe := frames_of_some number hname
    have hview : (runIn context (Run.call method registers) world).2.view number =
        world.view number :=
      view_runIn_of_keeps (fun _ => Keeps.call method registers) context world number
    by_cases hown : context.lineage = number
    · rw [frameIn_own hown] at hframe
      refine follows_of_deed (by simp [deed?, hname, hown]; rfl) ?_
      cases hcall : context.frame.call method registers with
      | error fault =>
        simp only [observe, perform_spawn_error hname hcall, View.perform, hframe, hcall, hview]
      | ok callee =>
        have hcallee : Context.frameIn { context with frame := callee } number = some callee :=
          if_pos hown
        simp only [observe, perform_spawn_ok hname hcall, View.perform, hframe, hcall,
          view_setContext, hview, hcallee]
    · cases hcall : context.frame.call method registers with
      | error fault =>
        refine follows_of_none ?_ ?_
        · simp only [deed?, hname, hown, hcall, if_false]
          rfl
        · rw [perform_spawn_error hname hcall, hview]
      | ok callee =>
        have hcallee : Context.frameIn { context with frame := callee } number = none :=
          if_neg hown
        have hobserve : observe machine number (.spawn parent child method registers) world =
            (some (.ok .none), (world.view number).setFrame child none) := by
          simp only [observe, perform_spawn_ok hname hcall, view_setContext, hview, hcallee]
        refine follows_of_loss ?_ hobserve
        simp only [deed?, hname, hown, hcall, if_false]
        rfl

theorem follows_join (parent child : String) :
    Follows machine number world (.join parent child) := by
  cases hname : world.contexts.get? parent with
  | none => exact follows_of_absent (by simp [Operation.needs]) hname
  | some context =>
    cases hchild : world.contexts.get? child with
    | none => exact follows_of_absent (by simp [Operation.needs]) hchild
    | some callee =>
      by_cases hsame : parent = child
      · subst hsame
        exact follows_of_none (by simp [deed?, hname]) (by rw [perform_join_self])
      · have hview : (runIn context (Run.join callee.frame)
            (dropContext child world).2).2.view number =
              (world.view number).setFrame child none := by
          rw [view_runIn_of_keeps fun _ => Keeps.join callee.frame, view_dropContext]
        have hframe := frames_of_some number hname
        have hcallee := frames_of_some number hchild
        by_cases hown : context.lineage = number
        · have hjoined : Context.frameIn { context with
              frame := context.frame.receiving callee.frame.registers.returnValue } number =
                some (context.frame.receiving callee.frame.registers.returnValue) := if_pos hown
          rw [frameIn_own hown] at hframe
          by_cases hchildOwn : callee.lineage = number
          · rw [frameIn_own hchildOwn] at hcallee
            refine follows_of_deed (by simp [deed?, hname, hchild, hsame, hown, hchildOwn]; rfl) ?_
            simp only [observe, perform_join hname hchild hsame, View.perform, hframe, hcallee,
              view_setContext, hview, hjoined]
          · -- The context that is joined was not in the view, so nothing is taken out of it.
            rw [frameIn_foreign hchildOwn] at hcallee
            rw [View.setFrame_none hcallee] at hview
            refine follows_of_deed (by simp [deed?, hname, hchild, hsame, hown, hchildOwn]; rfl) ?_
            simp only [observe, perform_join hname hchild hsame, View.perform, hframe,
              view_setContext, hview, hjoined]
        · have hjoined : Context.frameIn { context with
              frame := context.frame.receiving callee.frame.registers.returnValue } number = none :=
            if_neg hown
          rw [frameIn_foreign hown] at hframe
          have hstill : ((world.view number).setFrame child none).frames parent = none :=
            (View.frames_setFrame_ne _ none hsame).trans hframe
          refine follows_of_loss (by simp [deed?, hname, hchild, hsame, hown]; rfl) ?_
          simp only [observe, perform_join hname hchild hsame, view_setContext, hview, hjoined,
            View.setFrame_none hstill]

/-- Whatever is done in a world, there is to see of a lineage what its deed says. -/
theorem follows (machine : Machine) (hnumber : number < world.lineages.length)
    (operation : Operation) :
    Follows machine number world operation := by
  cases operation with
  | openContext name config registers => exact follows_openContext hnumber name config registers
  | act name action => exact follows_act hnumber name action
  | spawn parent child method registers => exact follows_spawn parent child method registers
  | fork origin copy => exact follows_fork hnumber origin copy
  | join parent child => exact follows_join parent child
  | drop name => exact follows_drop name

end World

end Dalvik
