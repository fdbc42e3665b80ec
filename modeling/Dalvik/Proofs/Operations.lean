import Dalvik.Proofs.Effects
import Dalvik.Proofs.Initialization.Worlds

/-!
# Operations

What each operation answers and makes of a world. An operation that needs a context that does not
exist does nothing. Joining hands over the result of a context, and nothing else.
-/

namespace Dalvik

open Run

namespace World

variable {α : Type} {machine : Machine} {world : World} {name : String} {context : Context}

/-- The names that have to stand for contexts if the operation is to do anything. -/
def Operation.needs : Operation → List String
  | .openContext _ _ _ | .drop _ => []
  | .act name _ | .spawn name _ _ _ | .fork name _ => [name]
  | .join parent child => [parent, child]

theorem perform_of_absent {operation : Operation} (hneeds : name ∈ operation.needs)
    (hname : world.contexts.get? name = none) :
    World.perform machine operation world = (none, world) := by
  cases operation with
  | openContext | drop => cases hneeds
  | act other action | spawn other child method registers | fork other copy =>
    obtain rfl := List.mem_singleton.1 hneeds
    simp only [World.perform, runNamed, bind_apply, context?_apply, hname]
    rfl
  | join parent child =>
    rcases List.mem_pair.1 hneeds with rfl | rfl
    · simp only [World.perform, bind_apply, context?_apply, hname]
      rfl
    · simp only [World.perform, bind_apply, context?_apply, hname]
      cases world.contexts.get? parent <;> rfl

/-- Either some context that is needed does not exist, or all of them do. -/
theorem absent_or_present (operation : Operation) (world : World) :
    (∃ name ∈ operation.needs, world.contexts.get? name = none) ∨
      ∀ name ∈ operation.needs, ∃ context, world.contexts.get? name = some context := by
  by_cases habsent : ∃ name ∈ operation.needs, world.contexts.get? name = none
  · exact .inl habsent
  · exact .inr fun name hneeds =>
      Option.ne_none_iff_exists'.1 fun hname => habsent ⟨name, hneeds, hname⟩

theorem perform_act (hname : world.contexts.get? name = some context) (action : Action) :
    World.perform machine (.act name action) world =
      (some (runIn context (machine.act action) world).1.1,
        (setContext name (runIn context (machine.act action) world).1.2
          (runIn context (machine.act action) world).2).2) := by
  simp only [World.perform, runNamed, bind_apply, context?_apply, hname]
  rfl

/-- Joining hands over the result, and nothing else. -/
theorem join_frame (callee : Frame) (e : Execution) :
    (Run.join callee e).2.frame = e.frame.receiving callee.registers.returnValue := by
  unfold Run.join
  rw [Run.bind_apply]
  cases callee.registers.returnValue with
  | none => rfl
  | some value => exact (assignInvokeResult_apply value { e with log := _ }).2

theorem perform_join_self (name : String) (world : World) :
    World.perform machine (.join name name) world = (none, world) := by
  simp only [World.perform, bind_apply, context?_apply, decide_true]
  cases world.contexts.get? name <;> rfl

theorem perform_join {parent child : String} {callee : Context}
    (hname : world.contexts.get? parent = some context)
    (hchild : world.contexts.get? child = some callee) (hne : parent ≠ child) :
    World.perform machine (.join parent child) world =
      (some (.ok .none), (setContext parent
        { context with frame := context.frame.receiving callee.frame.registers.returnValue }
        (runIn context (Run.join callee.frame) (dropContext child world).2).2).2) := by
  have hjoin (world : World) : World.join context callee world =
      ({ context with frame := context.frame.receiving callee.frame.registers.returnValue },
        (runIn context (Run.join callee.frame) world).2) :=
    Prod.ext (congrArg (fun frame => { context with frame })
      (join_frame callee.frame (.ofFrame context.frame (world.lineage context.lineage)))) rfl
  simp only [World.perform, bind_apply, context?_apply, hname, hchild, hne, decide_false, hjoin]
  rfl

theorem call_apply (method : String) (arguments : Registers) (e : Execution) :
    Run.call method arguments e =
      match e.frame.call method arguments with
      | .ok callee => (.ok callee, { e with log := e.log ++ [.spawned method callee.depth] })
      | .error fault => (.error (.fault fault), e) := by
  show (ofExcept (e.frame.call method arguments) >>= _) e = _
  cases e.frame.call method arguments <;> rfl

theorem perform_spawn_error {parent method : String} {registers : Registers} {fault : Fault}
    (hname : world.contexts.get? parent = some context)
    (hcall : context.frame.call method registers = .error fault) (child : String) :
    World.perform machine (.spawn parent child method registers) world =
      (some (.error (.fault fault)), (runIn context (Run.call method registers) world).2) := by
  simp only [World.perform, bind_apply, context?_apply, hname, spawn_apply]
  have hresult : (World.runIn context (Run.call method registers) world).1.1 =
      .error (.fault fault) := by
    show (Run.call method registers (.ofFrame context.frame _)).1 = _
    rw [call_apply]
    simp only [Execution.ofFrame, hcall]
  rw [hresult]
  rfl

theorem perform_spawn_ok {parent method : String} {registers : Registers} {callee : Frame}
    (hname : world.contexts.get? parent = some context)
    (hcall : context.frame.call method registers = .ok callee) (child : String) :
    World.perform machine (.spawn parent child method registers) world =
      (some (.ok .none), (setContext child { context with frame := callee }
        (runIn context (Run.call method registers) world).2).2) := by
  simp only [World.perform, bind_apply, context?_apply, hname, spawn_apply]
  have hresult : (World.runIn context (Run.call method registers) world).1.1 = .ok callee := by
    show (Run.call method registers (.ofFrame context.frame _)).1 = _
    rw [call_apply]
    simp only [Execution.ofFrame, hcall]
  rw [hresult]
  rfl

theorem perform_fork {origin : String} (hname : world.contexts.get? origin = some context)
    (copy : String) :
    World.perform machine (.fork origin copy) world =
      (some (.ok .none), (setContext copy { context with lineage := world.lineages.length }
        (World.fork context world).2).2) := by
  simp only [World.perform, bind_apply, context?_apply, hname]
  rfl

/-! ## Lineages -/

/-- To put a lineage where it is changes nothing, also if its number stands for none. -/
theorem set_lineage (world : World) (number : Nat) :
    world.lineages.set number (world.lineage number) = world.lineages := by
  by_cases hlt : number < world.lineages.length
  · rw [lineage_eq (List.getElem?_eq_getElem hlt)]
    exact List.set_getElem_self hlt
  · exact List.set_eq_of_length_le (Nat.le_of_not_lt hlt)

/-- Code that leaves its lineage as it is changes none. -/
theorem lineages_runIn_of_keeps {action : Run α} (h : ∀ lineage, Keeps (· = lineage) action)
    (context : Context) (world : World) :
    (runIn context action world).2.lineages = world.lineages := by
  show world.lineages.set context.lineage
    (action (.ofFrame context.frame (world.lineage context.lineage))).2.lineage = _
  rw [h _ (.ofFrame context.frame (world.lineage context.lineage)) rfl]
  exact set_lineage world context.lineage

/-- Code that does nothing changes nothing. -/
theorem world_runIn_of_idle {action : Run α}
    (h : (action (.ofFrame context.frame (world.lineage context.lineage))).2 =
      .ofFrame context.frame (world.lineage context.lineage)) :
    (runIn context action world).2 = world := by
  show World.mk (world.lineages.set context.lineage (action _).2.lineage) world.contexts
    (world.log ++ (action _).2.log) (world.notes ++ (action _).2.notes) = world
  rw [h]
  show World.mk (world.lineages.set context.lineage (world.lineage context.lineage)) _
    (world.log ++ []) (world.notes ++ []) = world
  rw [set_lineage, List.append_nil, List.append_nil]

/-- Joining changes no lineage, whichever the two contexts belong to. -/
theorem lineages_join (machine : Machine) (parent child : String) (world : World) :
    (World.perform machine (.join parent child) world).2.lineages = world.lineages := by
  by_cases hsame : parent = child
  · subst hsame
    rw [perform_join_self]
  cases hname : world.contexts.get? parent with
  | none => rw [perform_of_absent (List.mem_pair.2 (.inl rfl)) hname]
  | some context =>
    cases hchild : world.contexts.get? child with
    | none => rw [perform_of_absent (List.mem_pair.2 (.inr rfl)) hchild]
    | some callee =>
      rw [perform_join hname hchild hsame]
      exact lineages_runIn_of_keeps (fun _ => Keeps.join callee.frame) context
        (dropContext child world).2

theorem length_runIn (context : Context) (action : Run α) (world : World) :
    (runIn context action world).2.lineages.length = world.lineages.length :=
  List.length_set ..

/-- An operation makes one lineage, which gives out the identities that come next, or none. -/
theorem lineages_perform (machine : Machine) (operation : Operation) (world : World) :
    (World.perform machine operation world).2.lineages.length = world.lineages.length ∨
    ∃ lineage, (World.perform machine operation world).2.lineages = world.lineages ++ [lineage] ∧
      lineage.supply = world.freshSupply := by
  rcases absent_or_present operation world with ⟨name, hneeds, hname⟩ | hpresent
  · exact .inl (by rw [perform_of_absent hneeds hname])
  cases operation with
  | openContext name config registers => exact .inr ⟨_, rfl, rfl⟩
  | drop name => exact .inl rfl
  | act name action =>
    obtain ⟨context, hname⟩ := hpresent name (List.mem_singleton_self name)
    rw [perform_act hname]
    exact .inl (length_runIn context (machine.act action) world)
  | spawn parent child method registers =>
    obtain ⟨context, hname⟩ := hpresent parent (List.mem_singleton_self parent)
    have hlength := length_runIn context (Run.call method registers) world
    refine .inl ?_
    cases hcall : context.frame.call method registers with
    | error fault => rwa [perform_spawn_error hname hcall]
    | ok callee => rwa [perform_spawn_ok hname hcall]
  | fork origin copy =>
    obtain ⟨context, hname⟩ := hpresent origin (List.mem_singleton_self origin)
    rw [perform_fork hname]
    exact .inr ⟨_, rfl, rfl⟩
  | join parent child => exact .inl (congrArg _ (lineages_join machine parent child world))

/-- No lineage is ever taken away. -/
theorem length_le_perform (machine : Machine) (operation : Operation) (world : World) :
    world.lineages.length ≤ (World.perform machine operation world).2.lineages.length := by
  rcases lineages_perform machine operation world with hlength | ⟨lineage, hlineages, -⟩
  · exact Nat.le_of_eq hlength.symm
  · rw [hlineages, List.length_append]
    exact Nat.le_add_right ..

end World

end Dalvik
