import Dalvik.Proofs.Isolation.Views

/-!
# Isolation of lineages

Contexts of one lineage see one state. What there is to see of a lineage follows from what there was
to see of it and from the deeds on it, whatever is done to other lineages in between, and in which
order. So operations on other lineages may be left out, added and moved.
-/

namespace Dalvik

namespace View

/-- The view after some deeds. -/
def performAll (machine : Machine) (deeds : List Deed) (view : View) : View :=
  deeds.foldl (fun view deed => (view.perform machine deed).2) view

/-- The answer of each deed, with the view after it. -/
def trace (machine : Machine) : List Deed → View → List (Option (Except Failure Reply) × View)
  | [], _ => []
  | deed :: rest, view =>
    view.perform machine deed :: trace machine rest (view.perform machine deed).2

/-- The deed that an operation is if only contexts of this lineage take part in it. -/
def deed? (view : View) : World.Operation → Option Deed
  | .openContext name _ _ | .drop name => view.loss? name
  | .act name action => if (view.frames name).isSome then some (.act name action) else none
  | .spawn parent child method registers =>
    if (view.frames parent).isSome then some (.spawn parent child method registers) else none
  | .fork origin copy => if (view.frames origin).isSome then view.loss? copy else none
  | .join parent child =>
    if parent ≠ child ∧ (view.frames parent).isSome ∧ (view.frames child).isSome then
      some (.join parent child)
    else none

end View

namespace World

variable {machine : Machine} {world world' : World} {number number' : Nat} {name : String}
  {operation : Operation}

/-- What is done to a lineage while these operations are performed. -/
def deeds (machine : Machine) (number : Nat) : List Operation → World → List Deed
  | [], _ => []
  | operation :: rest, world =>
    (world.deed? number operation).toList ++
      deeds machine number rest (World.perform machine operation world).2

/-- What there is to see of a lineage while these operations are performed: the answer of each that
is a deed on it, with the view after it. -/
def trace (machine : Machine) (number : Nat) :
    List Operation → World → List (Option (Except Failure Reply) × View)
  | [], _ => []
  | operation :: rest, world =>
    if (world.deed? number operation).isSome then
      observe machine number operation world ::
        trace machine number rest (World.perform machine operation world).2
    else trace machine number rest (World.perform machine operation world).2

/-- Those of the operations that are deeds on a lineage. -/
def own (machine : Machine) (number : Nat) : List Operation → World → List Operation
  | [], _ => []
  | operation :: rest, world =>
    if (world.deed? number operation).isSome then
      operation :: own machine number rest (World.perform machine operation world).2
    else own machine number rest (World.perform machine operation world).2

/-- While these operations are performed, no context of another lineage is joined to one of the
lineage, and no operation on another lineage takes a context of it away. -/
def Separate (machine : Machine) (number : Nat) : List Operation → World → Prop
  | [], _ => True
  | operation :: rest, world =>
    world.deed? number operation = (world.view number).deed? operation ∧
      Separate machine number rest (World.perform machine operation world).2

/-! ## One operation -/

theorem observe_of_deed {deed : Deed} (machine : Machine) (hnumber : number < world.lineages.length)
    (hdeed : world.deed? number operation = some deed) :
    observe machine number operation world = (world.view number).perform machine deed := by
  have hfollows := follows machine hnumber operation
  unfold Follows at hfollows
  rwa [hdeed] at hfollows

theorem view_of_no_deed (machine : Machine) (hnumber : number < world.lineages.length)
    (hdeed : world.deed? number operation = none) :
    (World.perform machine operation world).2.view number = world.view number := by
  have hfollows := follows machine hnumber operation
  unfold Follows at hfollows
  rwa [hdeed] at hfollows

theorem exists_of_frames (h : ((world.view number).frames name).isSome = true) :
    ∃ context, world.contexts.get? name = some context ∧ context.lineage = number := by
  cases hname : world.contexts.get? name with
  | none => simp [frames_of_none number hname] at h
  | some context =>
    refine ⟨context, rfl, by_contra fun hforeign => ?_⟩
    simp [frames_of_some number hname, frameIn_foreign hforeign] at h

/-- If only contexts of the lineage take part in a deed, the rest of the world has no part in it. -/
theorem deed?_of_view {deed : Deed} (h : (world.view number).deed? operation = some deed) :
    world.deed? number operation = some deed := by
  cases operation with
  | openContext | drop | act => exact h
  | spawn parent child method registers =>
    simp only [View.deed?] at h
    split at h
    · rename_i hparent
      obtain ⟨context, hname, hown⟩ := exists_of_frames hparent
      simpa [deed?, hname, hown] using h
    · cases h
  | fork origin copy =>
    simp only [View.deed?] at h
    split at h
    · rename_i horigin
      obtain ⟨context, hname, -⟩ := exists_of_frames horigin
      simpa [deed?, hname] using h
    · cases h
  | join parent child =>
    simp only [View.deed?] at h
    split at h
    · rename_i hboth
      obtain ⟨hne, hparent, hchild⟩ := hboth
      obtain ⟨context, hname, hown⟩ := exists_of_frames hparent
      obtain ⟨callee, hcallee, hchildOwn⟩ := exists_of_frames hchild
      simpa [deed?, hname, hcallee, hne, hown, hchildOwn] using h
    · cases h

/-! ## One operation after the other -/

/-- What there is to see of a lineage follows from the deeds. -/
theorem trace_eq (machine : Machine) (hnumber : number < world.lineages.length)
    (operations : List Operation) :
    trace machine number operations world =
        View.trace machine (deeds machine number operations world) (world.view number) ∧
      (performAll machine operations world).view number =
        View.performAll machine (deeds machine number operations world) (world.view number) := by
  induction operations generalizing world with
  | nil => exact ⟨rfl, rfl⟩
  | cons operation rest ih =>
    obtain ⟨htrace, hview⟩ :=
      ih (Nat.lt_of_lt_of_le hnumber (length_le_perform machine operation world))
    cases hdeed : world.deed? number operation with
    | none =>
      rw [view_of_no_deed machine hnumber hdeed] at htrace hview
      simp only [trace, deeds, hdeed]
      exact ⟨htrace, hview⟩
    | some deed =>
      have hobserve := observe_of_deed machine hnumber hdeed
      have hlater : (World.perform machine operation world).2.view number = _ :=
        congrArg Prod.snd hobserve
      rw [hlater] at htrace hview
      simp only [trace, deeds, hdeed]
      exact ⟨congrArg₂ List.cons hobserve htrace, hview⟩

/-- The deeds on a lineage stay the same if everything else is left out. -/
theorem deeds_own (hnumber : number < world.lineages.length)
    (hnumber' : number' < world'.lineages.length) (hview : world'.view number' = world.view number)
    {operations : List Operation} (hseparate : Separate machine number operations world) :
    deeds machine number' (own machine number operations world) world' =
      deeds machine number operations world := by
  induction operations generalizing world world' with
  | nil => rfl
  | cons operation rest ih =>
    obtain ⟨hsame, hrest⟩ := hseparate
    have hnext := Nat.lt_of_lt_of_le hnumber (length_le_perform machine operation world)
    cases hdeed : world.deed? number operation with
    | none =>
      have hstill := view_of_no_deed machine hnumber hdeed
      simp only [own, deeds, hdeed]
      exact ih hnext hnumber' (hview.trans hstill.symm) hrest
    | some deed =>
      have hdeed' : world'.deed? number' operation = some deed :=
        deed?_of_view (by rw [hview, ← hsame, hdeed])
      have hobserve := observe_of_deed machine hnumber hdeed
      have hobserve' := observe_of_deed machine hnumber' hdeed'
      rw [hview, ← hobserve] at hobserve'
      have hnext' := Nat.lt_of_lt_of_le hnumber' (length_le_perform machine operation world')
      simp only [own, hdeed, Option.isSome_some, if_true, deeds, hdeed']
      exact congrArg (deed :: ·) (ih hnext hnext' (congrArg Prod.snd hobserve') hrest)

/-! ## New lineages -/

/-- No context belongs to a lineage that has just been added. -/
theorem Sound.view_new {later : World} {lineage : Lineage} (h : Sound machine world)
    (hlineages : later.lineages = world.lineages ++ [lineage])
    (hcontexts : later.contexts = world.contexts) :
    later.view world.lineages.length = ⟨lineage, fun _ => none⟩ := by
  ext1
  · exact lineage_eq (hlineages ▸ List.getElem?_concat_length)
  · funext name
    cases hname : world.contexts.get? name with
    | none => exact frames_of_none _ (hcontexts ▸ hname)
    | some context =>
      rw [frames_of_some _ (hcontexts ▸ hname)]
      exact frameIn_foreign (Nat.ne_of_lt (h.placed name context hname))

theorem Sound.view_openContext (h : Sound machine world) (name : String) (config : Config)
    (registers : Registers) :
    (World.perform machine (.openContext name config registers) world).2.view
        world.lineages.length =
      View.setFrame ⟨.start world.freshSupply, fun _ => none⟩ name
        (some (.root config registers)) := by
  have hnew : (World.openContext config registers world).2.view world.lineages.length = _ :=
    h.view_new rfl rfl
  have hset := view_setContext (World.openContext config registers world).2 world.lineages.length
    name ⟨.root config registers, world.lineages.length⟩
  rw [hnew, frameIn_own rfl] at hset
  exact hset

theorem Sound.view_fork (h : Sound machine world) {origin : String} {context : Context}
    (horigin : world.contexts.get? origin = some context) (copy : String) :
    (World.perform machine (.fork origin copy) world).2.view world.lineages.length =
      View.setFrame ⟨{ world.lineage context.lineage with supply := world.freshSupply },
        fun _ => none⟩ copy (some context.frame) := by
  have hnew : (World.fork context world).2.view world.lineages.length = _ := h.view_new rfl rfl
  have hset := view_setContext (World.fork context world).2 world.lineages.length copy
    { context with lineage := world.lineages.length }
  rw [hnew, frameIn_own rfl] at hset
  rw [perform_fork horigin]
  exact hset

/-! ## Isolation -/

theorem perform_isInitialized {context : Context}
    (hname : world.contexts.get? name = some context) (type : TypeDescriptor) :
    (World.perform machine (.act name (.isInitialized type)) world).1 =
      some (.ok (.truth ((world.lineage context.lineage).isInitialized type))) := by
  rw [perform_act hname]
  rfl

/-- The lineages of a world do not influence each other, and each is shared by its contexts. -/
structure Isolated (machine : Machine) (world : World) : Prop where
  /-- Contexts of one lineage agree about the classes that are initialized, and about the values of
  their static fields. -/
  shared {name other : String} {context context' : Context} :
    world.contexts.get? name = some context → world.contexts.get? other = some context' →
    context.lineage = context'.lineage →
    (∀ type, (World.perform machine (.act name (.isInitialized type)) world).1 =
      (World.perform machine (.act other (.isInitialized type)) world).1) ∧
    ∀ field declared, machine.statics.resolve field = .ok declared →
      (world.lineage context.lineage).isInitialized field.owner = true →
      (World.perform machine (.act name (.readStatic field)) world).1 =
        (World.perform machine (.act other (.readStatic field)) world).1
  /-- A context that is spawned belongs to the lineage of its parent. -/
  spawned {parent child method : String} {registers : Registers} {context : Context}
      {callee : Frame} :
    world.contexts.get? parent = some context →
    context.frame.call method registers = .ok callee →
    (World.perform machine (.spawn parent child method registers) world).2.contexts.get? child =
      some { context with frame := callee }
  /-- A new context begins with nothing, in a lineage of its own. -/
  opened (name : String) (config : Config) (registers : Registers) :
    (World.perform machine (.openContext name config registers) world).2.view
        world.lineages.length =
      View.setFrame ⟨.start world.freshSupply, fun _ => none⟩ name
        (some (.root config registers))
  /-- A fork begins with the frame and the state of its origin, apart from the identities that it
  will give out, in a lineage of its own. -/
  forked {origin : String} {context : Context} (copy : String) :
    world.contexts.get? origin = some context →
    (World.perform machine (.fork origin copy) world).2.view world.lineages.length =
      View.setFrame ⟨{ world.lineage context.lineage with supply := world.freshSupply },
        fun _ => none⟩ copy (some context.frame)
  /-- Joining changes no lineage, whichever the two contexts belong to. -/
  joined (parent child : String) :
    (World.perform machine (.join parent child) world).2.lineages = world.lineages
  /-- What is no deed on a lineage leaves it alone. -/
  unconcerned {number : Nat} {operation : Operation} :
    number < world.lineages.length → world.deed? number operation = none →
    (World.perform machine operation world).2.view number = world.view number
  /-- What there is to see of a lineage follows from what there is to see of it now and from the
  deeds on it, in this world or in any other. -/
  determined {number number' : Nat} {world' : World} {operations operations' : List Operation} :
    number < world.lineages.length → number' < world'.lineages.length →
    world'.view number' = world.view number →
    deeds machine number' operations' world' = deeds machine number operations world →
    trace machine number' operations' world' = trace machine number operations world ∧
      (performAll machine operations' world').view number' =
        (performAll machine operations world).view number
  /-- If no other lineage takes part in the deeds on a lineage, then they are all that has to be
  done to see the same of it. -/
  alone {number : Nat} {operations : List Operation} :
    number < world.lineages.length → Separate machine number operations world →
    trace machine number (own machine number operations world) world =
        trace machine number operations world ∧
      (performAll machine (own machine number operations world) world).view number =
        (performAll machine operations world).view number

/-- Same view, same deeds: same answers and same views. -/
theorem trace_congr (hnumber : number < world.lineages.length)
    (hnumber' : number' < world'.lineages.length) (hview : world'.view number' = world.view number)
    {operations operations' : List Operation}
    (hdeeds : deeds machine number' operations' world' = deeds machine number operations world) :
    trace machine number' operations' world' = trace machine number operations world ∧
      (performAll machine operations' world').view number' =
        (performAll machine operations world).view number := by
  obtain ⟨htrace, hlast⟩ := trace_eq machine hnumber operations
  obtain ⟨htrace', hlast'⟩ := trace_eq machine hnumber' operations'
  rw [hview, hdeeds] at htrace' hlast'
  exact ⟨htrace'.trans htrace.symm, hlast'.trans hlast.symm⟩

/-- Whatever was done in a world, its lineages are isolated from then on. -/
theorem lineages_isolated (machine : Machine) (operations : List Operation) :
    Isolated machine (after machine operations) where
  shared hname hother hlineage := by
    refine ⟨fun type => ?_, fun field declared hdeclared hmarked => ?_⟩
    · rw [perform_isInitialized hname, perform_isInitialized hother, hlineage]
    · rw [perform_read hname hdeclared hmarked, perform_read hother hdeclared (hlineage ▸ hmarked),
        hlineage]
  spawned hparent hcall := by
    rw [perform_spawn_ok hparent hcall]
    exact Table.get?_insert_self ..
  opened := (sound_after machine operations).view_openContext
  forked copy horigin := (sound_after machine operations).view_fork horigin copy
  joined parent child := lineages_join machine parent child _
  unconcerned := view_of_no_deed machine
  determined hnumber hnumber' hview hdeeds := trace_congr hnumber hnumber' hview hdeeds
  alone hnumber hseparate :=
    trace_congr hnumber hnumber rfl (deeds_own hnumber hnumber rfl hseparate)

/-- A fork assigns a static field while its origin reads it: for the origin, the read is all that
happens. -/
theorem lineages_isolated_forked :
    own (Sample.machine Sample.baseWrites) 0
      [.fork "root" "copy", .act "copy" (.writeStatic Sample.count (.int 9)), Sample.readCount]
      (after (Sample.machine Sample.baseWrites) []) = [Sample.readCount] ∧
    (performAll (Sample.machine Sample.baseWrites) [Sample.readCount]
        (after (Sample.machine Sample.baseWrites) [])).view 0 =
      (performAll (Sample.machine Sample.baseWrites)
        [.fork "root" "copy", .act "copy" (.writeStatic Sample.count (.int 9)), Sample.readCount]
        (after (Sample.machine Sample.baseWrites) [])).view 0 := by
  have hseparate : Separate (Sample.machine Sample.baseWrites) 0
      [.fork "root" "copy", .act "copy" (.writeStatic Sample.count (.int 9)), Sample.readCount]
      (after (Sample.machine Sample.baseWrites) []) := ⟨rfl, rfl, rfl, trivial⟩
  have hnumber : 0 < (after (Sample.machine Sample.baseWrites) []).lineages.length := by decide
  exact ⟨rfl, ((lineages_isolated (Sample.machine Sample.baseWrites) []).alone hnumber hseparate).2⟩

end World

end Dalvik
