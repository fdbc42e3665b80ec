import Dalvik.Proofs.Calls.Composition
import Dalvik.Proofs.Operations
import Mathlib.Logic.Function.Basic

/-!
# Where contexts come from

A context was opened, spawned from a parent, or forked from an origin. The calls that lead to it can
be read off from that: they are the methods of the spawns on the way, outermost first. Nothing else
that is done in a world changes them, so calls never nest deeper than the configuration at the root
allows, and a spawn fails just where they nest that deep already.
-/

namespace Dalvik

open Run

/-! ## Origins -/

/-- Where a context comes from. -/
inductive Origin where
  | opened (config : Config)
  | spawned (parent : Origin) (method : String)
  | forked (origin : Origin)

namespace Origin

/-- The methods of the spawns on the way from the root, outermost first. -/
def methods : Origin → List String
  | opened _ => []
  | spawned parent method => parent.methods ++ [method]
  | forked origin => origin.methods

/-- How deep calls may nest, as the configuration at the root says. -/
def limit : Origin → Nat
  | opened config => config.maxCallDepth
  | spawned parent _ => parent.limit
  | forked origin => origin.limit

end Origin

/-- The origins of the contexts by their names. -/
abbrev Origins := String → Option Origin

/-- The operation was done, and did not fail. -/
def Done : Option (Except Failure Reply) → Prop
  | some (.ok _) => True
  | _ => False

instance (answer : Option (Except Failure Reply)) : Decidable (Done answer) := by
  unfold Done
  split <;> infer_instance

/-- The origins after an operation that was answered like this. -/
def Origins.record (origins : Origins) (answer : Option (Except Failure Reply))
    (operation : World.Operation) : Origins :=
  if Done answer then
    match operation with
    | .openContext name config _ => Function.update origins name (some (.opened config))
    | .act _ _ => origins
    | .spawn parent child method _ =>
      Function.update origins child ((origins parent).map (.spawned · method))
    | .fork origin copy => Function.update origins copy ((origins origin).map .forked)
    | .join _ child => Function.update origins child none
    | .drop name => Function.update origins name none
  else origins

namespace World

/-- The origins after some operations in a world. -/
def originsAfter (machine : Machine) : List Operation → World → Origins → Origins
  | [], _, origins => origins
  | operation :: rest, world, origins =>
    originsAfter machine rest (World.perform machine operation world).2
      (origins.record (World.perform machine operation world).1 operation)

/-- The origins of the contexts after these things were done in the world of a machine. -/
def origins (machine : Machine) (operations : List Operation) : Origins :=
  originsAfter machine operations (start machine)
    (Function.update (fun _ => none) "root" (some (.opened machine.config)))

end World

/-! ## What leaves the calls alone -/

/-- The frame with other registers. -/
def Frame.withRegisters (frame : Frame) (registers : Registers) : Frame :=
  { frame with registers }

namespace Run

variable {α β : Type}

/-- Of the active frame, the run changes at most the registers. -/
def LeavesCalls (action : Run α) : Prop :=
  ∀ e, ∃ registers, (action e).2.frame = e.frame.withRegisters registers

theorem LeavesFrame.leavesCalls {action : Run α} (h : LeavesFrame action) : LeavesCalls action :=
  fun e => ⟨e.frame.registers, h e⟩

theorem LeavesCalls.bind {action : Run α} {next : α → Run β} (h : LeavesCalls action)
    (hnext : ∀ answer, LeavesCalls (next answer)) : LeavesCalls (action >>= next) := by
  intro e
  obtain ⟨registers, hframe⟩ := h e
  rw [bind_apply]
  generalize action e = out at hframe ⊢
  obtain ⟨failure | answer, e'⟩ := out
  · exact ⟨registers, hframe⟩
  · obtain ⟨later, hlater⟩ := hnext answer e'
    refine ⟨later, hlater.trans ?_⟩
    rw [hframe]
    rfl

theorem LeavesCalls.setRegisters (registers : Registers) : LeavesCalls (setRegisters registers) :=
  fun _ => ⟨registers, rfl⟩

theorem LeavesCalls.assignReturn (value : Value) : LeavesCalls (assignReturn value) :=
  .bind (LeavesFrame.reportTraced _).leavesCalls fun _ =>
    .bind LeavesFrame.registers.leavesCalls fun _ => .setRegisters _

/-- Whatever code does in another frame, the active one is there again afterwards. -/
theorem LeavesFrame.inFrame (callee : Frame) (action : Run α) :
    LeavesFrame (inFrame callee action) :=
  fun _ => rfl

end Run

theorem pervasive_leavesCalls : Pervasive fun action => LeavesCalls action where
  pure answer := (LeavesFrame.pure answer).leavesCalls
  throw failure := (LeavesFrame.throw failure).leavesCalls
  bind := .bind
  attempt h := h
  depth_bind h := .bind LeavesFrame.frame.leavesCalls fun _ => h _
  lineage := LeavesFrame.lineage.leavesCalls
  modifyLineage f _ := (LeavesFrame.modifyLineage f).leavesCalls
  mark type step := (LeavesFrame.mark type step).leavesCalls
  report event _ := (LeavesFrame.report event).leavesCalls
  trace event := (LeavesFrame.report event).leavesCalls
  note text := (LeavesFrame.note text).leavesCalls
  readParameter parameter _ := (LeavesFrame.readParameter parameter).leavesCalls
  assignReturn value _ := .assignReturn value
  frame := LeavesFrame.frame.leavesCalls
  registers := LeavesFrame.registers.leavesCalls
  setRegisters := .setRegisters
  inFrame callee _ := (LeavesFrame.inFrame callee _).leavesCalls

/-! ## Frames -/

/-- The origin tells the calls that lead to the frame, and they nest no deeper than allowed. -/
structure Frame.ComesFrom (frame : Frame) (origin : Origin) : Prop where
  callPath : frame.callPath = origin.methods
  depthLimit : frame.depthLimit = origin.limit
  bounded : frame.depth ≤ frame.depthLimit

namespace Frame

variable {frame callee : Frame} {origin : Origin} {method : String} {registers : Registers}

theorem comesFrom_root (config : Config) (registers : Registers) :
    (root config registers).ComesFrom (.opened config) :=
  ⟨rfl, rfl, Nat.zero_le _⟩

theorem ComesFrom.withRegisters (h : frame.ComesFrom origin) (registers : Registers) :
    (frame.withRegisters registers).ComesFrom origin :=
  ⟨h.callPath, h.depthLimit, h.bounded⟩

theorem ComesFrom.fork (h : frame.ComesFrom origin) : frame.ComesFrom (.forked origin) :=
  ⟨h.callPath, h.depthLimit, h.bounded⟩

theorem ComesFrom.call (h : frame.ComesFrom origin)
    (hcall : frame.call method registers = .ok callee) :
    callee.ComesFrom (.spawned origin method) := by
  unfold Frame.call at hcall
  split at hcall
  · rename_i hroom
    cases hcall
    refine ⟨congrArg (· ++ [method]) h.callPath, h.depthLimit, ?_⟩
    simpa [Frame.depth] using Nat.succ_le_of_lt hroom
  · cases hcall

theorem ComesFrom.depth (h : frame.ComesFrom origin) : frame.depth = origin.methods.length :=
  congrArg List.length h.callPath

/-- Where calls nest as deep as allowed, there are no more. -/
theorem ComesFrom.call_at_limit (h : frame.ComesFrom origin) (hdepth : frame.depth = origin.limit)
    (method : String) (registers : Registers) :
    frame.call method registers =
      .error (.callDepthExceeded (origin.limit + 1) origin.limit) := by
  unfold Frame.call
  rw [hdepth, h.depthLimit, if_neg (Nat.lt_irrefl _)]

theorem ComesFrom.call_below_limit (h : frame.ComesFrom origin)
    (hdepth : frame.depth ≠ origin.limit) (method : String) (registers : Registers) :
    ∃ callee, frame.call method registers = .ok callee := by
  have hroom : frame.depth < frame.depthLimit :=
    Nat.lt_of_le_of_ne h.bounded (h.depthLimit ▸ hdepth)
  exact ⟨_, if_pos hroom⟩

end Frame

/-! ## Worlds -/

namespace World

variable {machine : Machine} {world : World} {origins : Origins} {name : String}
  {context : Context} {origin : Origin}

theorem record_spawn (origins : Origins) (reply : Reply) (parent child method : String)
    (registers : Registers) :
    origins.record (some (.ok reply)) (.spawn parent child method registers) =
      Function.update origins child ((origins parent).map (.spawned · method)) :=
  if_pos trivial

theorem record_fork (origins : Origins) (reply : Reply) (origin copy : String) :
    origins.record (some (.ok reply)) (.fork origin copy) =
      Function.update origins copy ((origins origin).map .forked) :=
  if_pos trivial

/-- Every context has an origin that tells the calls that lead to it, and nothing else has one. -/
structure Accounts (origins : Origins) (world : World) : Prop where
  known {name : String} {context : Context} : world.contexts.get? name = some context →
    ∃ origin, origins name = some origin ∧ context.frame.ComesFrom origin
  unknown {name : String} : world.contexts.get? name = none → origins name = none

theorem Accounts.congr {later : World} (h : Accounts origins world)
    (hcontexts : later.contexts = world.contexts) : Accounts origins later :=
  ⟨fun hname => h.known (hcontexts ▸ hname), fun hname => h.unknown (hcontexts ▸ hname)⟩

theorem Accounts.setContext {frame : Frame} (h : Accounts origins world)
    (hfrom : frame.ComesFrom origin) (name : String) (number : Nat) :
    Accounts (Function.update origins name (some origin))
      (setContext name ⟨frame, number⟩ world).2 := by
  refine ⟨fun {other found} hfound => ?_, fun {other} hfound => ?_⟩
  · have hget : (world.contexts.insert name ⟨frame, number⟩).get? other = some found := hfound
    by_cases hother : name = other
    · subst hother
      rw [Table.get?_insert_self] at hget
      cases hget
      exact ⟨origin, Function.update_self .., hfrom⟩
    · rw [Table.get?_insert_ne _ hother] at hget
      rw [Function.update_of_ne (Ne.symm hother)]
      exact h.known hget
  · have hget : (world.contexts.insert name ⟨frame, number⟩).get? other = none := hfound
    by_cases hother : name = other
    · subst hother
      rw [Table.get?_insert_self] at hget
      cases hget
    · rw [Table.get?_insert_ne _ hother] at hget
      rw [Function.update_of_ne (Ne.symm hother)]
      exact h.unknown hget

theorem Accounts.dropContext (h : Accounts origins world) (name : String) :
    Accounts (Function.update origins name none) (dropContext name world).2 := by
  refine ⟨fun {other found} hfound => ?_, fun {other} hfound => ?_⟩
  · have hget : (world.contexts.erase name).get? other = some found := hfound
    rw [Table.get?_erase] at hget
    split at hget
    · cases hget
    · rename_i hother
      rw [Function.update_of_ne hother]
      exact h.known hget
  · have hget : (world.contexts.erase name).get? other = none := hfound
    rw [Table.get?_erase] at hget
    split at hget
    · rename_i hother
      exact hother ▸ Function.update_self ..
    · rename_i hother
      rw [Function.update_of_ne hother]
      exact h.unknown hget

/-- The registers of a context may change. -/
theorem Accounts.withRegisters (h : Accounts origins world)
    (hname : world.contexts.get? name = some context) (registers : Registers) :
    Accounts origins (World.setContext name
      { context with frame := context.frame.withRegisters registers } world).2 := by
  obtain ⟨origin, horigin, hfrom⟩ := h.known hname
  have hset := h.setContext (hfrom.withRegisters registers) name context.lineage
  rwa [← horigin, Function.update_eq_self] at hset

/-- Every operation keeps the account. -/
theorem Accounts.perform (machine : Machine) (h : Accounts origins world) (operation : Operation) :
    Accounts (origins.record (World.perform machine operation world).1 operation)
      (World.perform machine operation world).2 := by
  rcases absent_or_present operation world with ⟨name, hneeds, hname⟩ | hpresent
  · rw [perform_of_absent hneeds hname]
    exact h
  cases operation with
  | openContext name config registers =>
    have hopened : Accounts origins (World.openContext config registers world).2 := h.congr rfl
    exact hopened.setContext (Frame.comesFrom_root config registers) name _
  | drop name => exact h.dropContext name
  | act name action =>
    obtain ⟨context, hname⟩ := hpresent name (List.mem_singleton_self name)
    obtain ⟨registers, hframe⟩ := pervasive_leavesCalls.act action
      (.ofFrame context.frame (world.lineage context.lineage))
    have hsame (answer : Option (Except Failure Reply)) :
        origins.record answer (.act name action) = origins := ite_self _
    have hleft : (World.runIn context (machine.act action) world).1.2 =
        { context with frame := context.frame.withRegisters registers } :=
      congrArg (fun frame => { context with frame }) hframe
    have hran : Accounts origins (World.runIn context (machine.act action) world).2 := h.congr rfl
    rw [perform_act hname, hsame, hleft]
    exact hran.withRegisters hname registers
  | spawn parent child method registers =>
    obtain ⟨context, hname⟩ := hpresent parent (List.mem_singleton_self parent)
    obtain ⟨origin, horigin, hfrom⟩ := h.known hname
    cases hcall : context.frame.call method registers with
    | error fault =>
      rw [perform_spawn_error hname hcall]
      exact h.congr rfl
    | ok callee =>
      have hspawned : Accounts origins (World.runIn context (Run.call method registers) world).2 :=
        h.congr rfl
      rw [perform_spawn_ok hname hcall, record_spawn, horigin]
      exact hspawned.setContext (hfrom.call hcall) child _
  | fork origin copy =>
    obtain ⟨context, hname⟩ := hpresent origin (List.mem_singleton_self origin)
    obtain ⟨source, horigin, hfrom⟩ := h.known hname
    have hforked : Accounts origins (World.fork context world).2 := h.congr rfl
    rw [perform_fork hname, record_fork, horigin]
    exact hforked.setContext hfrom.fork copy _
  | join parent child =>
    by_cases hsame : parent = child
    · subst hsame
      rw [perform_join_self]
      exact h
    obtain ⟨context, hname⟩ := hpresent parent (List.mem_pair.2 (.inl rfl))
    obtain ⟨callee, hchild⟩ := hpresent child (List.mem_pair.2 (.inr rfl))
    have hjoined : Accounts (Function.update origins child none)
        (World.runIn context (Run.join callee.frame) (World.dropContext child world).2).2 :=
      (h.dropContext child).congr rfl
    have hstill : (World.dropContext child world).2.contexts.get? parent = some context :=
      (Table.get?_erase ..).trans ((if_neg hsame).trans hname)
    rw [perform_join hname hchild hsame]
    exact hjoined.withRegisters hstill _

theorem Accounts.after (machine : Machine) (h : Accounts origins world)
    (operations : List Operation) :
    Accounts (originsAfter machine operations world origins)
      (World.performAll machine operations world) := by
  induction operations generalizing world origins with
  | nil => exact h
  | cons operation rest ih => exact ih (h.perform machine operation)

theorem accounts_start (machine : Machine) :
    Accounts (Function.update (fun _ => none) "root" (some (.opened machine.config)))
      (start machine) := by
  have hempty : Accounts (fun _ => none) { empty with log := [Event.loaded machine.program.size] } :=
    ⟨fun hname => (nomatch hname), fun _ => rfl⟩
  exact hempty.perform machine (.openContext "root" machine.config .empty)

theorem accounts_origins (machine : Machine) (operations : List Operation) :
    Accounts (World.origins machine operations) (World.after machine operations) :=
  (accounts_start machine).after machine operations

/-! ## What the origins tell -/

/-- Where calls nest too deeply, nothing happens. -/
theorem perform_spawn_unchanged {parent method : String} {registers : Registers} {fault : Fault}
    (hname : world.contexts.get? parent = some context)
    (hcall : context.frame.call method registers = .error fault) (child : String) :
    World.perform machine (.spawn parent child method registers) world =
      (some (.error (.fault fault)), world) := by
  have hrun : (Run.call method registers (.ofFrame context.frame
      (world.lineage context.lineage))).2 =
        .ofFrame context.frame (world.lineage context.lineage) := by
    rw [call_apply]
    simp only [Execution.ofFrame, hcall]
  rw [perform_spawn_error hname hcall, world_runIn_of_idle hrun]

/-- The calls that lead to the contexts of a world are those that their origins tell. -/
structure Traceable (machine : Machine) (origins : Origins) (world : World) : Prop where
  /-- The names that have an origin are those that stand for a context. -/
  known (name : String) : (origins name).isSome = (world.contexts.get? name).isSome
  /-- The calls that lead to a context are the spawns on its way from the root, outermost first. -/
  callPath {name : String} {context : Context} {origin : Origin} :
    world.contexts.get? name = some context → origins name = some origin →
    context.frame.callPath = origin.methods
  /-- There are as many as the context is deep, and no more than the configuration at the root
  allows. -/
  depth {name : String} {context : Context} {origin : Origin} :
    world.contexts.get? name = some context → origins name = some origin →
    context.frame.depth = origin.methods.length ∧ context.frame.depth ≤ origin.limit
  /-- A spawn fails just where there are as many already. -/
  spawn_fails_iff {parent : String} {context : Context} {origin : Origin}
      (child method : String) (registers : Registers) :
    world.contexts.get? parent = some context → origins parent = some origin →
    ((∃ failure, (World.perform machine (.spawn parent child method registers) world).1 =
      some (.error failure)) ↔ context.frame.depth = origin.limit)
  /-- It fails with one more call than there may be, and nothing changes. -/
  spawn_at_limit {parent : String} {context : Context} {origin : Origin}
      (child method : String) (registers : Registers) :
    world.contexts.get? parent = some context → origins parent = some origin →
    context.frame.depth = origin.limit →
    World.perform machine (.spawn parent child method registers) world =
      (some (.error (.fault (.callDepthExceeded (origin.limit + 1) origin.limit))), world)
  /-- Joining does not change the calls that lead to the context that goes on, whichever context is
  joined. -/
  join {parent child : String} {context callee : Context} :
    world.contexts.get? parent = some context → world.contexts.get? child = some callee →
    parent ≠ child →
    ∃ joined, (World.perform machine (.join parent child) world).1 = some (.ok .none) ∧
      (World.perform machine (.join parent child) world).2.contexts.get? parent = some joined ∧
      joined.frame.callPath = context.frame.callPath ∧
      joined.frame.depthLimit = context.frame.depthLimit

theorem Accounts.comesFrom (h : Accounts origins world)
    (hname : world.contexts.get? name = some context) (horigin : origins name = some origin) :
    context.frame.ComesFrom origin := by
  obtain ⟨found, hfound, hfrom⟩ := h.known hname
  cases hfound.symm.trans horigin
  exact hfrom

/-- Whatever the machine and its configuration are, and whatever was done in its world: the calls
that lead to a context, and how deep they may nest, follow from where the context comes from. -/
theorem call_paths_tell_origins (machine : Machine) (operations : List Operation) :
    Traceable machine (World.origins machine operations) (World.after machine operations) := by
  have haccounts := accounts_origins machine operations
  refine ⟨fun name => ?_, fun hname horigin => ?_, fun hname horigin => ?_,
    fun child method registers hname horigin => ?_,
    fun child method registers hname horigin hdepth => ?_, fun hparent hchild hne => ?_⟩
  · cases hname : (World.after machine operations).contexts.get? name with
    | none => rw [haccounts.unknown hname]; rfl
    | some context =>
      obtain ⟨origin, horigin, -⟩ := haccounts.known hname
      rw [horigin]
      rfl
  · exact (haccounts.comesFrom hname horigin).callPath
  · have hfrom := haccounts.comesFrom hname horigin
    exact ⟨hfrom.depth, hfrom.depthLimit ▸ hfrom.bounded⟩
  · have hfrom := haccounts.comesFrom hname horigin
    constructor
    · rintro ⟨failure, hfails⟩
      by_contra hdepth
      obtain ⟨callee, hcall⟩ := hfrom.call_below_limit hdepth method registers
      rw [perform_spawn_ok hname hcall] at hfails
      cases hfails
    · intro hdepth
      rw [perform_spawn_unchanged hname (hfrom.call_at_limit hdepth method registers)]
      exact ⟨_, rfl⟩
  · have hfrom := haccounts.comesFrom hname horigin
    exact perform_spawn_unchanged hname (hfrom.call_at_limit hdepth method registers) child
  · rw [perform_join hparent hchild hne]
    exact ⟨_, rfl, Table.get?_insert_self .., rfl, rfl⟩

/-- If calls may not nest at all, not even the root has one. -/
example :
    let machine := { Machine.ofProgram Sample.program with
      config := { Config.standard with maxCallDepth := 0 } }
    (World.perform machine (.spawn "root" "child" "LA;->f()V" .empty) (start machine)).1 =
      some (.error (.fault (.callDepthExceeded 1 0))) :=
  rfl

end World

end Dalvik
