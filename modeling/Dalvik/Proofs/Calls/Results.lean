import Dalvik.Proofs.Calls.Paths
import Dalvik.Proofs.Registers

/-!
# Where results go

A frame has a slot for its own result and one for the result of the last call that it made. A ledger
keeps nothing but these two for each context: a value that is assigned as the result of a frame
stands in the first slot of this frame, a fork starts with what its origin has, and a join copies
the first slot of the callee to the second of the caller. As long as only registers are worked on,
what the contexts of a world hold is what the ledger says, so no result reaches any other frame.
-/

namespace Dalvik

open Run

/-- The slots of a frame for results: its own, and that of the last call. -/
structure ResultSlots where
  own : Option Value
  received : Option Value

/-- The slots for results among the registers. -/
def Registers.resultSlots (registers : Registers) : ResultSlots :=
  ⟨registers.returnValue, registers.invokeResult⟩

/-- The action works on the registers of the active frame, and runs no code. -/
def Action.OnRegisters : Action → Prop
  | .readStatic _ | .writeStatic _ _ | .initializeOnce _ | .invoke _ | .call _ _ | .execute _ =>
    False
  | _ => True

/-- The slots after such an action. -/
def ResultSlots.act (slots : ResultSlots) : Action → ResultSlots
  | .assignReturn value => { slots with own := some value }
  | .takeReturn => { slots with own := none }
  | .assignInvokeResult value => { slots with received := some value }
  | .clearInvokeResult | .takeInvokeResult => { slots with received := none }
  | .replaceRegisters registers => registers.resultSlots
  | _ => slots

/-- The slots of the contexts by their names. -/
abbrev Ledger := String → Option ResultSlots

/-- The ledger after an operation that was answered like this. -/
def Ledger.record (ledger : Ledger) (answer : Option (Except Failure Reply))
    (operation : World.Operation) : Ledger :=
  if Done answer then
    match operation with
    | .openContext name _ registers => Function.update ledger name (some registers.resultSlots)
    | .act name action => Function.update ledger name ((ledger name).map (·.act action))
    | .spawn _ child _ registers => Function.update ledger child (some registers.resultSlots)
    | .fork origin copy => Function.update ledger copy (ledger origin)
    | .join parent child =>
      Function.update (Function.update ledger child none) parent
        ((ledger parent).map fun slots => { slots with received := (ledger child).bind (·.own) })
    | .drop name => Function.update ledger name none
  else ledger

namespace World

/-- An operation whose actions work on registers only. -/
def Operation.OnRegisters : Operation → Prop
  | .act _ action => action.OnRegisters
  | _ => True

/-- The names of the contexts that the operation makes, forgets or acts in. -/
def Operation.concerns : Operation → List String
  | .openContext name _ _ | .act name _ | .drop name => [name]
  | .spawn _ child _ _ | .join _ child => [child]
  | .fork _ copy => [copy]

/-- The ledger after some operations in a world. -/
def ledgerAfter (machine : Machine) : List Operation → World → Ledger → Ledger
  | [], _, ledger => ledger
  | operation :: rest, world, ledger =>
    ledgerAfter machine rest (World.perform machine operation world).2
      (ledger.record (World.perform machine operation world).1 operation)

/-- The ledger after these things were done in the world of a machine, whose root starts without
results. -/
def ledger (machine : Machine) (operations : List Operation) : Ledger :=
  ledgerAfter machine operations (start machine)
    (Function.update (fun _ => none) "root" (some ⟨none, none⟩))

/-- What the contexts hold in their slots for results. -/
def resultSlots (world : World) : Ledger :=
  fun name => (world.contexts.get? name).map (·.frame.registers.resultSlots)

end World

/-! ## What is done in one frame -/

namespace Registers

variable {registers later : Registers} {value : Value}

theorem resultSlots_of_assign {register : Nat}
    (h : registers.assign register value = .ok later) :
    later.resultSlots = registers.resultSlots := by
  obtain ⟨-, rfl⟩ := assign_ok h
  rfl

theorem resultSlots_of_assignParameter {parameter : Nat}
    (h : registers.assignParameter parameter value = .ok later) :
    later.resultSlots = registers.resultSlots := by
  obtain ⟨register, -, hassign⟩ := assign_of_assignParameter h
  exact resultSlots_of_assign hassign

end Registers

namespace Run

/-- Registers that are replaced by some with the same results, unless that fails. -/
theorem resultSlots_setRegisters {change : Except Fault Registers} {e : Execution}
    (h : ∀ later, change = .ok later → later.resultSlots = e.frame.registers.resultSlots) :
    ((ofExcept change >>= fun registers => setRegisters registers >>= fun _ =>
      pure Reply.none) e).2.frame.registers.resultSlots = e.frame.registers.resultSlots := by
  cases change with
  | error fault => rfl
  | ok later => exact h later rfl

end Run

/-- What an action on registers makes of the slots; one that fails leaves them alone. -/
theorem Machine.resultSlots_act (machine : Machine) {action : Action} (h : action.OnRegisters)
    (e : Execution) :
    (machine.act action e).2.frame.registers.resultSlots =
      if Done (some (machine.act action e).1) then e.frame.registers.resultSlots.act action
      else e.frame.registers.resultSlots := by
  cases action with
  | readStatic | writeStatic | initializeOnce | invoke | call | execute => exact h.elim
  | readParameter parameter =>
    have hframe : (machine.act (.readParameter parameter) e).2.frame = e.frame :=
      LeavesFrame.bind (.readParameter parameter) (fun _ => .pure _) e
    rw [hframe]
    exact (ite_self _).symm
  | read register =>
    have hframe : (machine.act (.read register) e).2.frame = e.frame :=
      LeavesFrame.bind .registers (fun _ => .bind (.ofExcept _) fun _ => .pure _) e
    rw [hframe]
    exact (ite_self _).symm
  | assignParameter parameter value =>
    exact (resultSlots_setRegisters fun _ => Registers.resultSlots_of_assignParameter).trans
      (ite_self _).symm
  | assign register value =>
    exact (resultSlots_setRegisters fun _ => Registers.resultSlots_of_assign).trans
      (ite_self _).symm
  | assignReturn value =>
    obtain ⟨hok, hframe⟩ := assignReturn_apply value e
    have hact : machine.act (.assignReturn value) e =
        (.ok .none, (Run.assignReturn value e).2) := bind_of_ok hok
    rw [hact, hframe]
    rfl
  | assignInvokeResult value =>
    obtain ⟨hok, hframe⟩ := assignInvokeResult_apply value e
    have hact : machine.act (.assignInvokeResult value) e =
        (.ok .none, (Run.assignInvokeResult value e).2) := bind_of_ok hok
    rw [hact, hframe]
    rfl
  | readReturn | takeReturn | readInvokeResult | clearInvokeResult | takeInvokeResult | setTraced
  | replaceRegisters | isInitialized | pass => rfl

/-! ## What is done in a world -/

namespace World

variable {machine : Machine} {world : World} {name : String} {context : Context}

theorem resultSlots_of_get? (h : world.contexts.get? name = some context) :
    world.resultSlots name = some context.frame.registers.resultSlots :=
  congrArg (Option.map _) h

theorem resultSlots_setContext (name : String) (context : Context) (world : World) :
    (setContext name context world).2.resultSlots =
      Function.update world.resultSlots name (some context.frame.registers.resultSlots) := by
  funext other
  show ((world.contexts.insert name context).get? other).map _ = _
  by_cases hother : name = other
  · subst hother
    rw [Table.get?_insert_self, Function.update_self]
    rfl
  · rw [Table.get?_insert_ne _ hother, Function.update_of_ne (Ne.symm hother)]
    rfl

theorem resultSlots_dropContext (name : String) (world : World) :
    (dropContext name world).2.resultSlots = Function.update world.resultSlots name none := by
  funext other
  show ((world.contexts.erase name).get? other).map _ = _
  rw [Table.get?_erase]
  by_cases hother : other = name
  · subst hother
    rw [if_pos rfl, Function.update_self]
    rfl
  · rw [if_neg hother, Function.update_of_ne hother]
    rfl

theorem resultSlots_of_call {frame callee : Frame} {method : String} {registers : Registers}
    (h : frame.call method registers = .ok callee) :
    callee.registers.resultSlots = registers.resultSlots := by
  unfold Frame.call at h
  split at h
  · cases h
    rfl
  · cases h

/-- Every operation does to the slots of the contexts what it does to the ledger. -/
theorem resultSlots_perform (machine : Machine) (operation : Operation)
    (h : operation.OnRegisters) (world : World) :
    (World.perform machine operation world).2.resultSlots =
      world.resultSlots.record (World.perform machine operation world).1 operation := by
  rcases absent_or_present operation world with ⟨name, hneeds, hname⟩ | hpresent
  · rw [perform_of_absent hneeds hname]
    rfl
  cases operation with
  | openContext name config registers => exact resultSlots_setContext name _ _
  | drop name => exact resultSlots_dropContext name world
  | act name action =>
    obtain ⟨context, hname⟩ := hpresent name (List.mem_singleton_self name)
    let e : Execution := .ofFrame context.frame (world.lineage context.lineage)
    rw [perform_act hname, resultSlots_setContext]
    show Function.update world.resultSlots name
        (some (machine.act action e).2.frame.registers.resultSlots) =
      world.resultSlots.record (some (machine.act action e).1) (.act name action)
    rw [machine.resultSlots_act h e, Ledger.record]
    split
    · show _ = Function.update world.resultSlots name ((world.resultSlots name).map _)
      rw [resultSlots_of_get? hname]
      rfl
    · exact Function.update_eq_self_iff.2 (resultSlots_of_get? hname).symm
  | spawn parent child method registers =>
    obtain ⟨context, hname⟩ := hpresent parent (List.mem_singleton_self parent)
    cases hcall : context.frame.call method registers with
    | error fault =>
      rw [perform_spawn_error hname hcall]
      rfl
    | ok callee =>
      rw [perform_spawn_ok hname hcall, resultSlots_setContext]
      refine Eq.trans ?_ (if_pos trivial).symm
      show Function.update world.resultSlots child (some callee.registers.resultSlots) = _
      rw [resultSlots_of_call hcall]
  | fork origin copy =>
    obtain ⟨context, hname⟩ := hpresent origin (List.mem_singleton_self origin)
    rw [perform_fork hname, resultSlots_setContext]
    refine Eq.trans ?_ (if_pos trivial).symm
    show _ = Function.update world.resultSlots copy (world.resultSlots origin)
    rw [resultSlots_of_get? hname]
    rfl
  | join parent child =>
    by_cases hsame : parent = child
    · subst hsame
      rw [perform_join_self]
      rfl
    obtain ⟨context, hname⟩ := hpresent parent (List.mem_pair.2 (.inl rfl))
    obtain ⟨callee, hchild⟩ := hpresent child (List.mem_pair.2 (.inr rfl))
    rw [perform_join hname hchild hsame, resultSlots_setContext]
    refine Eq.trans ?_ (if_pos trivial).symm
    show Function.update (World.dropContext child world).2.resultSlots parent _ =
      Function.update (Function.update world.resultSlots child none) parent
        ((world.resultSlots parent).map fun slots =>
          { slots with received := (world.resultSlots child).bind (·.own) })
    rw [resultSlots_dropContext, resultSlots_of_get? hname, resultSlots_of_get? hchild]
    rfl

theorem resultSlots_performAll (machine : Machine) {operations : List Operation}
    (h : ∀ operation ∈ operations, operation.OnRegisters) (world : World) :
    (World.performAll machine operations world).resultSlots =
      ledgerAfter machine operations world world.resultSlots := by
  induction operations generalizing world with
  | nil => rfl
  | cons operation rest ih =>
    have hstep := resultSlots_perform machine operation (h operation List.mem_cons_self) world
    have hrest := ih (fun other hm => h other (List.mem_cons_of_mem _ hm))
      (World.perform machine operation world).2
    rw [hstep] at hrest
    exact hrest

theorem resultSlots_start (machine : Machine) :
    (start machine).resultSlots = Function.update (fun _ => none) "root" (some ⟨none, none⟩) :=
  resultSlots_perform machine (.openContext "root" machine.config .empty) trivial _

theorem resultSlots_after (machine : Machine) {operations : List Operation}
    (h : ∀ operation ∈ operations, operation.OnRegisters) :
    (after machine operations).resultSlots = ledger machine operations := by
  unfold after ledger
  rw [resultSlots_performAll machine h, resultSlots_start]

/-- No operation changes the result of a context that it neither makes, forgets nor acts in. -/
theorem own_record (ledger : Ledger) (answer : Option (Except Failure Reply))
    {operation : Operation} (h : name ∉ operation.concerns) :
    (ledger.record answer operation name).map (·.own) = (ledger name).map (·.own) := by
  unfold Ledger.record
  split
  · cases operation with
    | openContext other | act other | spawn _ other | fork _ other | drop other =>
      have hother : name ≠ other := by simpa [Operation.concerns] using h
      exact congrArg _ (Function.update_of_ne hother ..)
    | join parent child =>
      have hchild : name ≠ child := by simpa [Operation.concerns] using h
      show (Function.update (Function.update ledger child none) parent _ name).map _ = _
      by_cases hparent : name = parent
      · subst hparent
        rw [Function.update_self, Option.map_map]
        rfl
      · rw [Function.update_of_ne hparent, Function.update_of_ne hchild]
  · rfl

/-- As long as only registers are worked on, the results that contexts hold are those that the
ledger says. What is done elsewhere, calls and joins included, does not change the result of a
context. A join hands the result of the callee, or that there is none, to the caller and changes
nothing else in it, whatever the two held for results of calls before. -/
theorem results_reach_callers_only (machine : Machine) {operations : List Operation}
    (h : ∀ operation ∈ operations, operation.OnRegisters) :
    (after machine operations).resultSlots = ledger machine operations ∧
    (∀ operation name, operation.OnRegisters → name ∉ operation.concerns →
      (ledger machine (operations ++ [operation]) name).map (·.own) =
        (ledger machine operations name).map (·.own)) ∧
    ∀ (parent child : String) {context callee : Context},
      (after machine operations).contexts.get? parent = some context →
      (after machine operations).contexts.get? child = some callee → parent ≠ child →
      ∃ later, World.perform machine (.join parent child) (after machine operations) =
          (some (.ok .none), later) ∧
        later.contexts.get? parent = some { context with
          frame := { context.frame with
            registers := { context.frame.registers with
              invokeResult := callee.frame.registers.returnValue } } } ∧
        later.contexts.get? child = none ∧
        (∀ other, other ≠ parent → other ≠ child →
          later.contexts.get? other = (after machine operations).contexts.get? other) ∧
        later.lineages = (after machine operations).lineages := by
  refine ⟨resultSlots_after machine h, fun operation name hoperation hname => ?_,
    fun parent child _ _ hparent hchild hne => ?_⟩
  · have hmore : ∀ other ∈ operations ++ [operation], other.OnRegisters := by
      intro other hm
      rcases List.mem_append.1 hm with hm | hm
      · exact h other hm
      · exact List.mem_singleton.1 hm ▸ hoperation
    rw [← resultSlots_after machine hmore, ← resultSlots_after machine h, after_concat,
      resultSlots_perform machine operation hoperation]
    exact own_record _ _ hname
  · refine ⟨_, perform_join hparent hchild hne, Table.get?_insert_self .., ?_, ?_, ?_⟩
    · exact (Table.get?_insert_ne _ hne _).trans ((Table.get?_erase ..).trans (if_pos rfl))
    · intro other hparent' hchild'
      exact (Table.get?_insert_ne _ (Ne.symm hparent') _).trans
        ((Table.get?_erase ..).trans (if_neg hchild'))
    · have hlineages := lineages_join machine parent child (after machine operations)
      rwa [perform_join hparent hchild hne] at hlineages

/-- The result of a callee does not pass through a frame that has none. -/
theorem results_reach_callers_only_void :
    let machine := Machine.ofProgram Sample.program
    let operations : List Operation := [.spawn "root" "void" "LA;->run()V" .empty,
      .spawn "void" "callee" "LA;->key()I" .empty, .act "callee" (.assignReturn (.int 3)),
      .join "void" "callee"]
    (∀ operation ∈ operations, operation.OnRegisters) ∧
    (after machine operations).resultSlots "void" = some ⟨none, some (.int 3)⟩ ∧
    ∃ later, World.perform machine (.join "root" "void") (after machine operations) =
      (some (.ok .none), later) ∧ later.resultSlots "root" = some ⟨none, none⟩ := by
  intro machine operations
  have hregisters : ∀ operation ∈ operations, operation.OnRegisters := by
    simp [operations, Operation.OnRegisters, Action.OnRegisters]
  obtain ⟨hledger, -, hjoin⟩ := results_reach_callers_only machine hregisters
  obtain ⟨later, hjoined, hroot, -⟩ := hjoin "root" "void" rfl rfl (by decide)
  exact ⟨hregisters, hledger ▸ rfl, later, hjoined, resultSlots_of_get? hroot⟩

end World

end Dalvik
