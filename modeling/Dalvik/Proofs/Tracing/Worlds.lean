import Dalvik.Proofs.Tracing.Erasure

/-!
# Tracing only adds traces

Whatever is done in a world, without some of the traces it is what would have been done on a machine
that does not trace them. So two machines that differ in what they trace answer alike and leave the
same behind, except for the traces; and a machine reports no traces but those that it is to report.
-/

namespace Dalvik

open Run

/-- The context of which only what is kept is traced. -/
def Context.keeping (kept : Tracing) (context : Context) : Context :=
  { context with frame := context.frame.keeping kept }

namespace World

/-- The operation that asks for traces only if they are kept. -/
def Operation.keeping (kept : Tracing) : Operation → Operation
  | .openContext name config registers => .openContext name (config.keeping kept) registers
  | .act name action => .act name (action.keeping kept)
  | .spawn parent child method registers => .spawn parent child method registers
  | .fork origin copy => .fork origin copy
  | .join parent child => .join parent child
  | .drop name => .drop name

/-- The second world is the first one without the traces that are not kept. -/
structure Erased (kept : Tracing) (world world' : World) : Prop where
  lineages : world'.lineages = world.lineages
  contexts (name : String) :
    world'.contexts.get? name = (world.contexts.get? name).map (Context.keeping kept)
  log : world'.log = world.log.filter (Event.isKept kept)
  notes : world'.notes = world.notes

variable {α : Type} {kept : Tracing} {machine : Machine} {world world' : World} {name : String}
  {context : Context}

theorem Erased.setContext (h : Erased kept world world') (name : String) (context : Context) :
    Erased kept (setContext name context world).2
      (World.setContext name (context.keeping kept) world').2 := by
  refine ⟨h.lineages, fun other => ?_, h.log, h.notes⟩
  show (world'.contexts.insert name _).get? other =
    ((world.contexts.insert name context).get? other).map _
  by_cases hother : name = other
  · subst hother
    rw [Table.get?_insert_self, Table.get?_insert_self]
    rfl
  · rw [Table.get?_insert_ne _ hother, Table.get?_insert_ne _ hother]
    exact h.contexts other

theorem Erased.dropContext (h : Erased kept world world') (name : String) :
    Erased kept (dropContext name world).2 (World.dropContext name world').2 := by
  refine ⟨h.lineages, fun other => ?_, h.log, h.notes⟩
  show (world'.contexts.erase name).get? other = ((world.contexts.erase name).get? other).map _
  rw [Table.get?_erase, Table.get?_erase]
  split
  · rfl
  · exact h.contexts other

theorem Erased.lineage (h : Erased kept world world') (number : Nat) :
    world'.lineage number = world.lineage number := by
  rw [World.lineage, World.lineage, h.lineages]

/-- What runs in a context leaves out there what is left out in the world. -/
theorem Erased.runIn {action action' : Run α} (h : Erased kept world world')
    (hleft : ∀ e, (action' (e.keeping kept)).2 = (action e).2.keeping kept) (context : Context) :
    (World.runIn (context.keeping kept) action' world').1.2 =
        (World.runIn context action world).1.2.keeping kept ∧
      Erased kept (World.runIn context action world).2
        (World.runIn (context.keeping kept) action' world').2 := by
  let e : Execution := .ofFrame context.frame (world.lineage context.lineage)
  let e' : Execution := .ofFrame (context.keeping kept).frame (world'.lineage context.lineage)
  have hrun : (action' e').2 = (action e).2.keeping kept := by
    rw [← hleft, show e' = e.keeping kept from congrArg (Execution.ofFrame _) (h.lineage _)]
  refine ⟨congrArg (fun e => Context.mk e.frame context.lineage) hrun, ?_, h.contexts, ?_, ?_⟩
  · show world'.lineages.set context.lineage (action' e').2.lineage = _
    rw [hrun, h.lineages]
    rfl
  · show world'.log ++ (action' e').2.log = (world.log ++ (action e).2.log).filter _
    rw [hrun, h.log, List.filter_append]
    rfl
  · show world'.notes ++ (action' e').2.notes = _
    rw [hrun, h.notes]
    rfl

theorem Erased.fork (h : Erased kept world world') (context : Context) :
    (World.fork (context.keeping kept) world').1 =
        (World.fork context world).1.keeping kept ∧
      Erased kept (World.fork context world).2 (World.fork (context.keeping kept) world').2 := by
  have hlength : world'.lineages.length = world.lineages.length := congrArg _ h.lineages
  have hlineage := h.lineage context.lineage
  refine ⟨?_, ?_, h.contexts, ?_, h.notes⟩
  · show Context.mk _ world'.lineages.length = Context.mk _ world.lineages.length
    rw [hlength]
    rfl
  · show world'.lineages ++ [{ world'.lineage context.lineage with supply := world'.freshSupply }] =
      world.lineages ++ [{ world.lineage context.lineage with supply := world.freshSupply }]
    rw [hlineage, World.freshSupply, World.freshSupply, h.lineages]
  · show world'.log ++ [Event.forked context.frame.depth
        (world'.lineage context.lineage).initialized.length] =
      (world.log ++ [_]).filter (Event.isKept kept)
    rw [hlineage, h.log, List.filter_append]
    rfl

theorem Erased.openContext (h : Erased kept world world') (config : Config)
    (registers : Registers) :
    (World.openContext (config.keeping kept) registers world').1 =
        (World.openContext config registers world).1.keeping kept ∧
      Erased kept (World.openContext config registers world).2
        (World.openContext (config.keeping kept) registers world').2 := by
  refine ⟨?_, ?_, h.contexts, h.log, h.notes⟩
  · show Context.mk _ world'.lineages.length = Context.mk _ world.lineages.length
    rw [h.lineages]
    rfl
  · show world'.lineages ++ [Lineage.start world'.freshSupply] =
      world.lineages ++ [Lineage.start world.freshSupply]
    rw [World.freshSupply, World.freshSupply, h.lineages]

/-- The answers are the same, and the second world is the first one without the traces that are not
kept. -/
def Erases (kept : Tracing) (out out' : Option (Except Failure Reply) × World) : Prop :=
  out'.1 = out.1 ∧ Erased kept out.2 out'.2

/-- Every operation answers alike, and leaves out the same. -/
theorem Erased.perform (h : Erased kept world world') (machine : Machine) (operation : Operation) :
    Erases kept (World.perform machine operation world)
      (World.perform (machine.keeping kept) (operation.keeping kept) world') := by
  rcases absent_or_present operation world with ⟨name, hneeds, hname⟩ | hpresent
  · have hneeds' : name ∈ (operation.keeping kept).needs := by cases operation <;> exact hneeds
    have hname' : world'.contexts.get? name = none := by rw [h.contexts, hname]; rfl
    rw [perform_of_absent hneeds hname, perform_of_absent hneeds' hname']
    exact ⟨rfl, h⟩
  have hcontext {name : String} {context : Context}
      (hname : world.contexts.get? name = some context) :
      world'.contexts.get? name = some (context.keeping kept) := by rw [h.contexts, hname]; rfl
  cases operation with
  | openContext name config registers =>
    obtain ⟨hopened, hworld⟩ := h.openContext config registers
    refine ⟨rfl, ?_⟩
    show Erased kept _ (World.setContext name
      (World.openContext (config.keeping kept) registers world').1 _).2
    rw [hopened]
    exact hworld.setContext name _
  | drop name => exact ⟨rfl, h.dropContext name⟩
  | act name action =>
    obtain ⟨context, hname⟩ := hpresent name (List.mem_singleton_self name)
    have hfollows := machine.follows_act kept action
    obtain ⟨hcontext', hworld⟩ := h.runIn (fun e => congrArg Prod.snd (hfollows e)) context
    have hanswer : ((machine.keeping kept).act (action.keeping kept)
          (.ofFrame (context.keeping kept).frame (world'.lineage context.lineage))).1 =
        (machine.act action (.ofFrame context.frame (world.lineage context.lineage))).1 := by
      have hrun := hfollows (.ofFrame context.frame (world.lineage context.lineage))
      rw [h.lineage]
      exact (congrArg Prod.fst hrun :)
    rw [Operation.keeping, perform_act hname, perform_act (hcontext hname), hcontext']
    exact ⟨congrArg some hanswer, hworld.setContext name _⟩
  | spawn parent child method registers =>
    obtain ⟨context, hname⟩ := hpresent parent (List.mem_singleton_self parent)
    obtain ⟨-, hworld⟩ := h.runIn (call_keeping kept method registers) context
    have hkept := context.frame.call_keeping kept method registers
    cases hcall : context.frame.call method registers with
    | error fault =>
      rw [hcall] at hkept
      rw [Operation.keeping, perform_spawn_error hname hcall,
        perform_spawn_error (hcontext hname) hkept]
      exact ⟨rfl, hworld⟩
    | ok callee =>
      rw [hcall] at hkept
      rw [Operation.keeping, perform_spawn_ok hname hcall, perform_spawn_ok (hcontext hname) hkept]
      exact ⟨rfl, hworld.setContext child { context with frame := callee }⟩
  | fork origin copy =>
    obtain ⟨context, hname⟩ := hpresent origin (List.mem_singleton_self origin)
    obtain ⟨hforked, hworld⟩ := h.fork context
    rw [Operation.keeping, perform_fork hname, perform_fork (hcontext hname)]
    refine ⟨rfl, ?_⟩
    show Erased kept _ (World.setContext copy (World.fork (context.keeping kept) world').1 _).2
    rw [hforked]
    exact hworld.setContext copy _
  | join parent child =>
    by_cases hsame : parent = child
    · subst hsame
      rw [Operation.keeping, perform_join_self, perform_join_self]
      exact ⟨rfl, h⟩
    obtain ⟨context, hname⟩ := hpresent parent (List.mem_pair.2 (.inl rfl))
    obtain ⟨callee, hchild⟩ := hpresent child (List.mem_pair.2 (.inr rfl))
    obtain ⟨-, hworld⟩ := (h.dropContext child).runIn
      (fun e => congrArg Prod.snd (Follows.join callee.frame e)) context
    rw [Operation.keeping, perform_join hname hchild hsame,
      perform_join (hcontext hname) (hcontext hchild) hsame]
    exact ⟨rfl, hworld.setContext parent _⟩

theorem Erased.performAll (h : Erased kept world world') (machine : Machine)
    (operations : List Operation) :
    Erased kept (World.performAll machine operations world)
      (World.performAll (machine.keeping kept) (operations.map (Operation.keeping kept))
        world') := by
  induction operations generalizing world world' with
  | nil => exact h
  | cons operation rest ih => exact ih (h.perform machine operation).2

theorem erased_start (kept : Tracing) (machine : Machine) :
    Erased kept (start machine) (start (machine.keeping kept)) := by
  have hempty : Erased kept { empty with log := [Event.loaded machine.program.size] }
      { empty with log := [Event.loaded machine.program.size] } :=
    ⟨rfl, fun _ => rfl, rfl, rfl⟩
  exact (hempty.perform machine (.openContext "root" machine.config .empty)).2

/-- A machine that traces less does the same without the traces that are not kept. -/
theorem erased_after (kept : Tracing) (machine : Machine) (operations : List Operation) :
    Erased kept (after machine operations)
      (after (machine.keeping kept) (operations.map (Operation.keeping kept))) :=
  (erased_start kept machine).performAll machine operations

/-! ## Machines that differ in what they trace -/

/-- The worlds differ at most in what is traced: in the flags of frames, and in the events of that
level. -/
structure AlikeUntraced (world world' : World) : Prop where
  lineages : world'.lineages = world.lineages
  contexts (name : String) : (world'.contexts.get? name).map (Context.keeping .off) =
    (world.contexts.get? name).map (Context.keeping .off)
  log : (world'.log.filter fun event => event.level ≠ .trace) =
    world.log.filter fun event => event.level ≠ .trace
  notes : world'.notes = world.notes

theorem isKept_off (event : Event) : event.isKept .off = decide (event.level ≠ .trace) := by
  cases event <;> rfl

/-- Worlds that are the same without traces. -/
theorem Erased.alikeUntraced {silent : World} (h : Erased .off world silent)
    (h' : Erased .off world' silent) : AlikeUntraced world world' := by
  have hfilter (log : List Event) : (log.filter fun event => event.level ≠ .trace) =
      log.filter (Event.isKept .off) :=
    List.filter_congr fun event _ => (isKept_off event).symm
  refine ⟨?_, fun name => ?_, ?_, ?_⟩
  · exact h'.lineages.symm.trans h.lineages
  · exact (h'.contexts name).symm.trans (h.contexts name)
  · rw [hfilter, hfilter, ← h.log, ← h'.log]
  · exact h'.notes.symm.trans h.notes

/-- Where everything traces only what is kept, nothing else is reported. -/
theorem isKept_of_keeping {operations : List Operation} (hmachine : machine.keeping kept = machine)
    (hoperations : ∀ operation ∈ operations, operation.keeping kept = operation) :
    ∀ event ∈ (after machine operations).log, event.isKept kept = true := by
  have herased := erased_after kept machine operations
  rw [hmachine, List.map_congr_left hoperations, List.map_id'] at herased
  exact List.filter_eq_self.1 herased.log.symm

end World

/-- The machine with this tracing. -/
def Machine.retraced (machine : Machine) (tracing : Tracing) : Machine :=
  { machine with config := { machine.config with tracing } }

/-- The action turns traces of registers on by itself. -/
def Action.StartsTracing : Action → Prop
  | .setTraced traced => traced = true
  | .replaceRegisters registers | .call registers _ => registers.traced = true
  | _ => False

theorem Registers.keeping_eq_self {registers : Registers} {kept : Tracing}
    (h : registers.traced = true → kept.registers = true) : registers.keeping kept = registers := by
  cases htraced : registers.traced with
  | true =>
    show registers.setTraced (kept.registers && registers.traced) = registers
    rw [h htraced]
    rfl
  | false =>
    show registers.setTraced (kept.registers && registers.traced) = registers
    rw [htraced, Bool.and_false, ← htraced]
    rfl

theorem Action.keeping_eq_self {action : Action} {kept : Tracing}
    (h : action.StartsTracing → kept.registers = true) : action.keeping kept = action := by
  cases action with
  | setTraced traced =>
    cases traced with
    | true => exact congrArg (fun flag => Action.setTraced (flag && true)) (h rfl)
    | false => exact congrArg Action.setTraced (Bool.and_false _)
  | replaceRegisters registers => exact congrArg _ (Registers.keeping_eq_self h)
  | call arguments signature =>
    exact congrArg (Action.call · signature) (Registers.keeping_eq_self h)
  | _ => rfl

namespace World

/-- The operation with this tracing for a context that it opens. -/
def Operation.retraced (tracing : Tracing) : Operation → Operation
  | .openContext name config registers => .openContext name { config with tracing } registers
  | .act name action => .act name action
  | .spawn parent child method registers => .spawn parent child method registers
  | .fork origin copy => .fork origin copy
  | .join parent child => .join parent child
  | .drop name => .drop name

/-- The operation does so. -/
def Operation.StartsTracing : Operation → Prop
  | .act _ action => action.StartsTracing
  | _ => False

variable {tracing : Tracing}

theorem Operation.keeping_retraced_off (tracing : Tracing) (operation : Operation) :
    (operation.retraced tracing).keeping .off = operation.keeping .off := by
  cases operation <;> rfl

theorem Operation.keeping_retraced {operation : Operation}
    (htracing : kept.keeping tracing = tracing)
    (h : operation.StartsTracing → kept.registers = true) :
    (operation.retraced tracing).keeping kept = operation.retraced tracing := by
  cases operation with
  | openContext name config registers =>
    exact congrArg (fun tracing => openContext name { config with tracing } registers) htracing
  | act name action => exact congrArg (act name) (Action.keeping_eq_self h)
  | _ => rfl

/-- Only what is to be traced is reported, unless an action turns traces on by itself. -/
theorem isKept_of_retraced (kept : Tracing) (htracing : kept.keeping tracing = tracing)
    (machine : Machine) {operations : List Operation}
    (h : ∀ operation ∈ operations, operation.StartsTracing → kept.registers = true) :
    ∀ event ∈ (after (machine.retraced tracing)
      (operations.map (Operation.retraced tracing))).log, event.isKept kept = true := by
  refine isKept_of_keeping ?_ fun other hm => ?_
  · exact congrArg machine.retraced htracing
  · obtain ⟨operation, hoperation, rfl⟩ := List.mem_map.1 hm
    exact Operation.keeping_retraced htracing (h operation hoperation)

/-- Whatever a machine traces, and whichever contexts it traces: it answers alike, and what it
leaves behind differs only in the traces. What is not to be traced is not reported, unless it is a
use of registers for which an action turned traces on by itself. -/
theorem tracing_only_adds_traces (machine : Machine) (tracing : Tracing)
    (operations : List Operation) :
    let machine' := machine.retraced tracing
    let world := after machine operations
    let world' := after machine' (operations.map (Operation.retraced tracing))
    AlikeUntraced world world' ∧
    (∀ operation, (World.perform machine' (operation.retraced tracing) world').1 =
      (World.perform machine operation world).1) ∧
    (tracing.dispatch = false → ∀ event ∈ world'.log, event.ofDispatch = false) ∧
    ((∀ operation ∈ operations, ¬ operation.StartsTracing) →
      (tracing.registers = false → ∀ event ∈ world'.log, event.ofRegisters = false) ∧
      (tracing = .off → ∀ event ∈ world'.log, event.level ≠ .trace)) := by
  intro machine' world world'
  have h := erased_after .off machine operations
  have h' : Erased .off world' _ :=
    erased_after .off machine' (operations.map (Operation.retraced tracing))
  have hoperations : (operations.map (Operation.retraced tracing)).map (Operation.keeping .off) =
      operations.map (Operation.keeping .off) := by
    rw [List.map_map]
    exact List.map_congr_left fun operation _ => operation.keeping_retraced_off tracing
  rw [hoperations] at h'
  refine ⟨h.alikeUntraced h', fun operation => ?_, fun hdispatch event hevent => ?_,
    fun hstarts => ⟨fun hregisters event hevent => ?_, fun hoff event hevent => ?_⟩⟩
  · have hanswer := (h'.perform machine' (operation.retraced tracing)).1
    rw [operation.keeping_retraced_off] at hanswer
    exact hanswer.symm.trans (h.perform machine operation).1
  · have htracing : Tracing.keeping ⟨true, false⟩ tracing = tracing := by
      cases tracing
      cases hdispatch
      rfl
    have hkept := isKept_of_retraced _ htracing machine (fun _ _ _ => rfl) event hevent
    cases event <;> first | rfl | cases hkept
  · have htracing : Tracing.keeping ⟨false, true⟩ tracing = tracing := by
      cases tracing
      cases hregisters
      rfl
    have hkept := isKept_of_retraced _ htracing machine
      (fun operation hm hstart => absurd hstart (hstarts operation hm)) event hevent
    cases event <;> first | rfl | cases hkept
  · have htracing : Tracing.keeping .off tracing = tracing := by
      rw [hoff]
      rfl
    have hkept := isKept_of_retraced _ htracing machine
      (fun operation hm hstart => absurd hstart (hstarts operation hm)) event hevent
    rw [isKept_off] at hkept
    exact of_decide_eq_true hkept

/-- A result that is traced, unless nothing is. -/
theorem tracing_only_adds_traces_off :
    let machine := (Machine.ofProgram Sample.program).retraced .full
    let operations : List Operation :=
      [.act "root" (.assignReturn (.int 3)), .act "root" (.readStatic Sample.count)]
    (∀ operation ∈ operations, ¬ operation.StartsTracing) ∧
    Event.returnAssigned (.int 3) ∈ (after machine operations).log ∧
    ∀ event ∈ (after (machine.retraced .off)
      (operations.map (Operation.retraced .off))).log,
        event.ofDispatch = false ∧ event.ofRegisters = false ∧ event.level ≠ .trace := by
  intro machine operations
  have hstarts : ∀ operation ∈ operations, ¬ operation.StartsTracing := by
    simp [operations, Operation.StartsTracing, Action.StartsTracing]
  have htraced : (after machine operations).log[1]? = some (.returnAssigned (.int 3)) := rfl
  obtain ⟨-, -, hdispatch, huses⟩ := tracing_only_adds_traces machine .off operations
  obtain ⟨hregisters, hlevel⟩ := huses hstarts
  exact ⟨hstarts, List.mem_of_getElem? htraced, fun event hevent =>
    ⟨hdispatch rfl event hevent, hregisters rfl event hevent, hlevel rfl event hevent⟩⟩

end World

end Dalvik
