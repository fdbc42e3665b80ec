import Dalvik.Action
import Dalvik.Proofs.Effects
import Dalvik.Proofs.Registers
import Mathlib.Algebra.GroupWithZero.Nat
import Mathlib.Data.List.Nodup

/-!
# What parameters hold

The windows of the parameters tile the top of the registers, also after any number of accesses: an
access changes what registers hold and not where parameters start. So a parameter that is assigned
is read as assigned until something else is written to the register where it starts, and no other
register has to be looked at for that.
-/

namespace Dalvik

open Run

/-- The action reads or writes what the registers of the frame hold. -/
def Action.IsAccess : Action → Prop
  | .readParameter _ | .assignParameter _ _ | .read _ | .assign _ _ | .readReturn | .assignReturn _
  | .takeReturn | .readInvokeResult | .assignInvokeResult _ | .clearInvokeResult
  | .takeInvokeResult | .setTraced _ => True
  | _ => False

/-- The registers that the action writes to, if parameters start in these. -/
def Action.writes (parameters : List Nat) : Action → List Nat
  | .assign register _ => [register]
  | .assignParameter parameter _ => parameters[parameter]?.toList
  | _ => []

/-- The execution after some actions. -/
def Machine.actAll (machine : Machine) (actions : List Action) (e : Execution) : Execution :=
  actions.foldl (fun e action => (machine.act action e).2) e

namespace Registers

variable {registers : Registers} {types : List TypeDescriptor}

/-! ## Windows -/

/-- The registers that each parameter takes, if parameters of these types start there. -/
def windows (starts : List Nat) (types : List TypeDescriptor) : List (List Nat) :=
  List.zipWith (fun start type => List.range' start type.width) starts types

/-- The windows of parameters of these types, one behind the other, are the last registers. -/
structure Tiles (registers : Registers) (types : List TypeDescriptor) : Prop where
  count : registers.parameters.length = types.length
  fits : width types ≤ registers.slots.length
  start : ∀ parameter start, registers.parameters[parameter]? = some start →
    start + width (types.drop parameter) = registers.slots.length
  consecutive : (windows registers.parameters types).flatten =
    List.range' (registers.slots.length - width types) (width types)
  disjoint : (windows registers.parameters types).Pairwise List.Disjoint

theorem flatten_windows (next : Nat) (types : List TypeDescriptor) :
    (windows (starts next types) types).flatten = List.range' next (width types) := by
  induction types generalizing next with
  | nil => rfl
  | cons type rest ih =>
    have hrest : (windows (starts (next + type.width) rest) rest).flatten =
        List.range' (next + type.width) (width rest) := ih _
    rw [starts, windows, List.zipWith_cons_cons, List.flatten_cons, ← windows, hrest, width,
      List.range'_append_1]

theorem LaidOut.tiles (h : registers.LaidOut types) : registers.Tiles types := by
  have hflatten : (windows registers.parameters types).flatten =
      List.range' (registers.slots.length - width types) (width types) := by
    rw [h.starts]
    exact flatten_windows _ types
  have hnodup : (windows registers.parameters types).flatten.Nodup := by
    rw [hflatten]
    exact List.nodup_range'
  exact {
    count := by rw [h.starts, length_starts]
    fits := h.fits
    start := fun _ _ hstart => (h.start_add_width hstart).2
    consecutive := hflatten
    disjoint := (List.nodup_flatten.1 hnodup).2 }

/-! ## Accesses -/

/-- What accesses make of registers: the same parameters start in the same places, and only the
registers that are written to may hold something else. -/
structure Accessed (before : Registers) (written : List Nat) (after : Registers) : Prop where
  parameters : after.parameters = before.parameters
  count : after.slots.length = before.slots.length
  others : ∀ register, register ∉ written → after.slots[register]? = before.slots[register]?
  made : before.Made → after.Made

theorem Accessed.refl (registers : Registers) (written : List Nat) :
    registers.Accessed written registers :=
  ⟨rfl, rfl, fun _ _ => rfl, id⟩

theorem Accessed.trans {between after : Registers} {written more : List Nat}
    (h : registers.Accessed written between) (hmore : between.Accessed more after) :
    registers.Accessed (written ++ more) after where
  parameters := hmore.parameters.trans h.parameters
  count := hmore.count.trans h.count
  others register hregister := by
    rw [List.mem_append, not_or] at hregister
    exact (hmore.others register hregister.2).trans (h.others register hregister.1)
  made hregisters := hmore.made (h.made hregisters)

theorem Accessed.assign {later : Registers} {register : Nat} {value : Value}
    (h : registers.assign register value = .ok later) :
    registers.Accessed [register] later := by
  have hmade (hregisters : registers.Made) : later.Made := hregisters.assign h
  obtain ⟨-, rfl⟩ := assign_ok h
  exact ⟨rfl, List.length_set, fun other hother =>
    List.getElem?_set_ne (List.ne_of_not_mem_cons hother).symm, hmade⟩

theorem Accessed.assignParameter {later : Registers} {parameter : Nat} {value : Value}
    (h : registers.assignParameter parameter value = .ok later) :
    registers.Accessed registers.parameters[parameter]?.toList later := by
  obtain ⟨start, hstart, hassign⟩ := assign_of_assignParameter h
  rw [hstart]
  exact .assign hassign

/-- Accesses leave the windows where they are. -/
theorem Accessed.tiles {after : Registers} {written : List Nat}
    (h : registers.Accessed written after) (htiles : registers.Tiles types) :
    after.Tiles types where
  count := h.parameters ▸ htiles.count
  fits := h.count ▸ htiles.fits
  start := by
    rw [h.parameters, h.count]
    exact htiles.start
  consecutive := by
    rw [h.parameters, h.count]
    exact htiles.consecutive
  disjoint := h.parameters ▸ htiles.disjoint

end Registers

namespace Machine

variable {e : Execution}

/-- How an access ends: it fails and changes nothing at all, or it changes what it writes to. -/
def EndsAccess (e : Execution) (written : List Nat) (out : Except Failure Reply × Execution) :
    Prop :=
  (∃ failure, out = (.error failure, e)) ∨
    ∃ reply after, out = (.ok reply, after) ∧
      e.frame.registers.Accessed written after.frame.registers

/-- Registers that are replaced by what some change makes of them, unless that fails. -/
theorem endsAccess_of_change {change : Except Fault Registers} {written : List Nat}
    (h : ∀ later, change = .ok later → e.frame.registers.Accessed written later) :
    EndsAccess e written ((Run.ofExcept change >>= fun registers =>
      setRegisters registers >>= fun _ => pure Reply.none) e) := by
  cases change with
  | error fault => exact .inl ⟨.fault fault, rfl⟩
  | ok later => exact .inr ⟨.none, e.withRegisters later, rfl, h later rfl⟩

/-- What is reported does not matter to the registers. -/
theorem accessed_reportTraced (event : Event) (written : List Nat) :
    e.frame.registers.Accessed written (reportTraced event e).2.frame.registers := by
  rw [reportTraced_apply]
  split <;> exact .refl _ _

theorem endsAccess_act (machine : Machine) {action : Action} (h : action.IsAccess)
    (e : Execution) :
    EndsAccess e (action.writes e.frame.registers.parameters) (machine.act action e) := by
  cases action with
  | replaceRegisters | readStatic | writeStatic | initializeOnce | isInitialized | invoke | call
  | execute | pass => exact h.elim
  | assignParameter parameter value => exact endsAccess_of_change fun _ => .assignParameter
  | assign register value => exact endsAccess_of_change fun _ => .assign
  | readParameter parameter =>
    have hact : machine.act (.readParameter parameter) e =
        (Run.readParameter parameter >>= fun value => pure (Reply.value value) : Run Reply) e := rfl
    rw [hact, bind_apply, readParameter_apply]
    rcases e.frame.registers.readParameter parameter with fault | ⟨register, value⟩
    · exact .inl ⟨.fault fault, rfl⟩
    · exact .inr ⟨.value value, _, rfl, accessed_reportTraced _ _⟩
  | read register =>
    have hact : machine.act (.read register) e =
        (Run.ofExcept (e.frame.registers.read register) >>= fun value =>
          pure (Reply.value value) : Run Reply) e := rfl
    rw [hact]
    cases e.frame.registers.read register with
    | error fault => exact .inl ⟨.fault fault, rfl⟩
    | ok value => exact .inr ⟨.value value, e, rfl, .refl _ _⟩
  | assignReturn value =>
    obtain ⟨hok, hframe⟩ := assignReturn_apply value e
    refine .inr ⟨.none, (Run.assignReturn value e).2, bind_of_ok hok, ?_⟩
    rw [hframe]
    exact ⟨rfl, rfl, fun _ _ => rfl, .setReturn (some value)⟩
  | assignInvokeResult value =>
    obtain ⟨hok, hframe⟩ := assignInvokeResult_apply value e
    refine .inr ⟨.none, (Run.assignInvokeResult value e).2, bind_of_ok hok, ?_⟩
    rw [hframe]
    exact ⟨rfl, rfl, fun _ _ => rfl, .setInvokeResult (some value)⟩
  | readReturn | readInvokeResult => exact .inr ⟨_, _, rfl, .refl _ _⟩
  | takeReturn => exact .inr ⟨_, _, rfl, rfl, rfl, fun _ _ => rfl, .setReturn none⟩
  | clearInvokeResult | takeInvokeResult =>
    exact .inr ⟨_, _, rfl, rfl, rfl, fun _ _ => rfl, .setInvokeResult none⟩
  | setTraced traced => exact .inr ⟨_, _, rfl, rfl, rfl, fun _ _ => rfl, .setTraced traced⟩

variable {machine : Machine} {action : Action}

theorem accessed_act (machine : Machine) (h : action.IsAccess) (e : Execution) :
    e.frame.registers.Accessed (action.writes e.frame.registers.parameters)
      (machine.act action e).2.frame.registers := by
  rcases endsAccess_act machine h e with ⟨failure, hact⟩ | ⟨reply, after, hact, haccessed⟩
  · rw [hact]
    exact .refl _ _
  · rwa [hact]

theorem act_of_error (h : action.IsAccess) {failure : Failure}
    (hfailure : (machine.act action e).1 = .error failure) : (machine.act action e).2 = e := by
  rcases endsAccess_act machine h e with ⟨_, hact⟩ | ⟨reply, after, hact, -⟩
  · rw [hact]
  · rw [hact] at hfailure
    cases hfailure

/-- All accesses together write to what each of them writes to: parameters stay where they are. -/
theorem accessed_actAll (machine : Machine) {actions : List Action} (e : Execution)
    (h : ∀ action ∈ actions, action.IsAccess) :
    e.frame.registers.Accessed (actions.flatMap (·.writes e.frame.registers.parameters))
      (machine.actAll actions e).frame.registers := by
  induction actions generalizing e with
  | nil => exact .refl _ _
  | cons action rest ih =>
    have hstep := accessed_act machine (h action List.mem_cons_self) e
    have hrest := ih (machine.act action e).2 fun other hother =>
      h other (List.mem_cons_of_mem action hother)
    -- What the rest writes to is told by where parameters start after the first access.
    rw [hstep.parameters] at hrest
    exact hstep.trans hrest

theorem act_readParameter {parameter start : Nat} {value : Value}
    (h : e.frame.registers.readParameter parameter = .ok (start, value)) :
    (machine.act (.readParameter parameter) e).1 = .ok (.value (some value)) := by
  have hact : machine.act (.readParameter parameter) e =
      (Run.readParameter parameter >>= fun value => pure (Reply.value value) : Run Reply) e := rfl
  rw [hact, bind_apply, readParameter_apply, h]
  rfl

/-- A parameter is read as it is now after any accesses that write elsewhere. -/
theorem act_readParameter_actAll {parameter start : Nat} {value : Value} {actions : List Action}
    (hread : e.frame.registers.readParameter parameter = .ok (start, value))
    (h : ∀ action ∈ actions,
      action.IsAccess ∧ start ∉ action.writes e.frame.registers.parameters) :
    (machine.act (.readParameter parameter) (machine.actAll actions e)).1 =
      .ok (.value (some value)) := by
  have haccessed := accessed_actAll machine e fun action hmem => (h action hmem).1
  have hspared : start ∉ actions.flatMap (·.writes e.frame.registers.parameters) := by
    simpa only [List.mem_flatMap, not_exists, not_and] using fun action hmem => (h action hmem).2
  obtain ⟨hstart, hset⟩ := Registers.readParameter_eq_ok_iff.1 hread
  exact act_readParameter (Registers.readParameter_of_set (haccessed.parameters ▸ hstart)
    ((haccessed.others start hspared).trans hset))

/-! ## Assigning a parameter -/

/-- What it means to assign a parameter that starts in the register `start`: that succeeds, and
nothing but this register holds something else then. From then on, whatever else is read or written,
the parameter is read as assigned until something is written to this register. -/
structure Binds (machine : Machine) (e : Execution) (parameter : Nat) (value : Value)
    (start : Nat) (later : Execution) : Prop where
  starts : e.frame.registers.parameters[parameter]? = some start
  done : machine.act (.assignParameter parameter value) e = (.ok .none, later)
  count : later.frame.registers.slots.length = e.frame.registers.slots.length
  registers : ∀ register, register ≠ start →
    later.frame.registers.slots[register]? = e.frame.registers.slots[register]?
  rest : later =
    e.withRegisters { e.frame.registers with slots := later.frame.registers.slots }
  parameters : ∀ other, other ≠ parameter →
    later.frame.registers.readParameter other = e.frame.registers.readParameter other
  kept : ∀ actions : List Action,
    (∀ action ∈ actions,
      action.IsAccess ∧ start ∉ action.writes e.frame.registers.parameters) →
    (machine.act (.readParameter parameter) (machine.actAll actions later)).1 =
      .ok (.value (some value))

theorem act_assignParameter {parameter : Nat} {value : Value} {later : Registers}
    (h : e.frame.registers.assignParameter parameter value = .ok later) :
    machine.act (.assignParameter parameter value) e = (.ok .none, e.withRegisters later) := by
  have hact : machine.act (.assignParameter parameter value) e =
      (Run.ofExcept (e.frame.registers.assignParameter parameter value) >>= fun registers =>
        setRegisters registers >>= fun _ => pure Reply.none : Run Reply) e := rfl
  rw [hact, h]
  rfl

/-- A parameter that there is can be assigned: it starts in a register that is there. -/
theorem exists_binds (machine : Machine) (hmade : e.frame.registers.Made) {parameter : Nat}
    (hparameter : parameter < e.frame.registers.parameters.length) (value : Value) :
    ∃ start later, machine.Binds e parameter value start later := by
  obtain ⟨start, hstart⟩ : ∃ start, e.frame.registers.parameters[parameter]? = some start :=
    ⟨_, List.getElem?_eq_getElem hparameter⟩
  obtain ⟨later, hassign⟩ : ∃ later, e.frame.registers.assign start value = .ok later :=
    ⟨_, if_pos (hmade.inRange start (List.mem_of_getElem? hstart))⟩
  have hlater : e.frame.registers.assignParameter parameter value = .ok later :=
    (Registers.assignParameter_of_start hstart value).trans hassign
  have haccessed := Registers.Accessed.assign hassign
  refine ⟨start, e.withRegisters later, {
    starts := hstart
    done := act_assignParameter hlater
    count := haccessed.count
    registers := fun register hne => haccessed.others register (by simpa using hne)
    rest := ?_
    parameters := fun other hother => hmade.readParameter_other hlater hother
    kept := fun actions hactions => ?_ }⟩
  · obtain ⟨-, rfl⟩ := Registers.assign_ok hassign
    rfl
  · have hread := Registers.readParameter_of_assigned hstart hlater
    exact act_readParameter_actAll (e := e.withRegisters later) hread (by
      rwa [← haccessed.parameters] at hactions)

end Machine

/-! ## All registers that come about -/

namespace Registers

/-- What becomes of a request for registers with parameters of these types: it is refused if they
need more registers than there are, and else they tile the top of registers that hold nothing. -/
structure LaysOut (count : Nat) (types : List TypeDescriptor) : Prop where
  tooWide : count < width types → ∃ last, width types = last + 1 ∧
    withTypes count types = .error (.registerOutOfRange last count)
  fits : width types ≤ count → ∃ registers, withTypes count types = .ok registers ∧
    registers.slots = List.replicate count none ∧ registers.Tiles types

theorem laysOut (count : Nat) (types : List TypeDescriptor) : LaysOut count types where
  tooWide h := by
    obtain ⟨last, hlast⟩ := Nat.exists_eq_add_one_of_ne_zero (Nat.ne_zero_of_lt h)
    refine ⟨last, hlast, ?_⟩
    rw [withTypes, if_neg (Nat.not_le_of_lt h), hlast]
    rfl
  fits h := by
    obtain ⟨registers, hregisters, hslots⟩ : ∃ registers, withTypes count types = .ok registers ∧
        registers.slots = List.replicate count none := ⟨_, if_pos h, rfl⟩
    exact ⟨registers, hregisters, hslots, (laidOut_withTypes hregisters).tiles⟩

/-- A long or a double takes two registers, and any other value takes one. -/
theorem width_eq_sum (types : List TypeDescriptor) :
    width types = (types.map fun type =>
      if type = .primitive .long ∨ type = .primitive .double then 2 else 1).sum := by
  induction types with
  | nil => rfl
  | cons type rest ih =>
    rw [width, ih, List.map_cons, List.sum_cons]
    congr 1
    cases type with
    | primitive p => cases p <;> rfl
    | void | named | array => rfl

end Registers

/-- Registers with parameters of some types are refused exactly if there are too few for the total
width. However registers come about and whatever is read and written, the windows of the parameters
tile the top; a parameter can be assigned and holds what it was assigned until its register is
written to; and an access that fails changes nothing. -/
theorem Machine.parameters_tile_and_hold (machine : Machine) {e : Execution}
    (hmade : e.frame.registers.Made) :
    (∀ types, Registers.width types = (types.map fun type =>
      if type = .primitive .long ∨ type = .primitive .double then 2 else 1).sum) ∧
    (∀ count types, Registers.LaysOut count types) ∧
    (∀ values, (Registers.withArguments values).Tiles (values.map (·.type))) ∧
    (∃ types, e.frame.registers.Tiles types) ∧
    (∀ actions : List Action, (∀ action ∈ actions, action.IsAccess) →
      (machine.actAll actions e).frame.registers.Made ∧
      ∀ types, e.frame.registers.Tiles types →
        (machine.actAll actions e).frame.registers.Tiles types) ∧
    (∀ parameter value, parameter < e.frame.registers.parameters.length →
      ∃ start later, machine.Binds e parameter value start later) ∧
    ∀ (action : Action) failure, action.IsAccess → (machine.act action e).1 = .error failure →
      (machine.act action e).2 = e := by
  refine ⟨Registers.width_eq_sum, Registers.laysOut, ?_, ?_, ?_, ?_, ?_⟩
  · exact fun values => (Registers.laidOut_withArguments values).tiles
  · exact hmade.laidOut.imp fun _ hlaid => hlaid.tiles
  · intro actions haccess
    have haccessed := accessed_actAll machine e haccess
    exact ⟨haccessed.made hmade, fun _ htiles => haccessed.tiles htiles⟩
  · exact fun _ value hparameter => exists_binds machine hmade hparameter value
  · exact fun _ _ haccess hfailure => act_of_error haccess hfailure

/-- Five registers, a parameter of one register and one of two: the second starts in the last but
one, and is assigned there. -/
theorem Machine.parameters_tile_and_hold_wide :
    ∃ registers, Registers.withTypes 5 [.int, .primitive .long] = .ok registers ∧
      (Execution.ofFrame (.root .standard registers) default).frame.registers.Made ∧
      ∃ later, (Machine.ofProgram .empty).Binds
        (.ofFrame (.root .standard registers) default) 1 (.long 2) 3 later := by
  let registers : Registers := ⟨List.replicate 5 none, [2, 3], none, none, false⟩
  have hregisters : Registers.withTypes 5 [.int, .primitive .long] = .ok registers := rfl
  have hmade : (Execution.ofFrame (.root .standard registers) default).frame.registers.Made :=
    .setTraced _ (.withTypes hregisters)
  obtain ⟨-, -, -, -, -, hbinds, -⟩ :=
    parameters_tile_and_hold (Machine.ofProgram .empty) hmade
  obtain ⟨start, later, h⟩ := hbinds 1 (.long 2) (by decide)
  obtain rfl : 3 = start := Option.some.inj h.starts
  exact ⟨registers, hregisters, hmade, later, h⟩

end Dalvik
