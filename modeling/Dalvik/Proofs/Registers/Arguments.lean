import Dalvik.Proofs.Registers
import Mathlib.Data.List.Perm.Basic
import Mathlib.Data.List.Nodup

/-!
# Registers that hold arguments

Registers for a call can be made for the arguments at once, or for the types of the arguments, whose
values are assigned afterwards. The first way lets the registers grow from the front; in the second
the last window is laid out first to fit, and the values may come in any order. Both give the same
registers: every argument is written to a register of its own, so the writes commute.
-/

namespace Dalvik.Registers

/-- Assigns values to parameters, one after the other. -/
def assignAll (registers : Registers) (assignments : List (Value × Nat)) :
    Except Fault Registers :=
  assignments.foldlM (fun registers (value, parameter) =>
    registers.assignParameter parameter value) registers

/-- Writes a value to a register. -/
def store (slots : List (Option Value)) (write : Value × Nat) : List (Option Value) :=
  slots.set write.2 (some write.1)

/-- The register to which an assignment writes, if parameters start in these. -/
def located (parameters : List Nat) (assignment : Value × Nat) : Value × Nat :=
  (assignment.1, parameters.getD assignment.2 0)

variable {registers : Registers} {values : List Value}

/-! ## Arguments at once -/

theorem foldl_withArgument (registers : Registers) (values : List Value) :
    values.foldl withArgument registers =
      { registers with
        slots := registers.slots ++ values.flatMap argumentSlots
        parameters := registers.parameters ++
          starts registers.slots.length (values.map (·.type)) } := by
  induction values generalizing registers with
  | nil => simp [starts]
  | cons value rest ih =>
    rw [List.foldl_cons, ih]
    simp only [withArgument, List.flatMap_cons, List.map_cons, starts, List.append_assoc,
      List.length_append, length_argumentSlots, List.singleton_append]

/-- The slots of the arguments one behind the other, and nothing else. -/
theorem withArguments_eq (values : List Value) :
    withArguments values =
      ⟨values.flatMap argumentSlots, starts 0 (values.map (·.type)), none, none, false⟩ :=
  foldl_withArgument empty values

/-! ## Values that are assigned -/

theorem assignAll_cons (registers : Registers) (assignment : Value × Nat)
    (rest : List (Value × Nat)) :
    registers.assignAll (assignment :: rest) =
      registers.assignParameter assignment.2 assignment.1 >>= fun registers =>
        registers.assignAll rest := rfl

theorem assignParameter_eq (h : registers.InRange) {assignment : Value × Nat}
    (hparameter : assignment.2 < registers.parameters.length) :
    registers.assignParameter assignment.2 assignment.1 =
      .ok { registers with
        slots := store registers.slots (located registers.parameters assignment) } := by
  have hstart : registers.parameters[assignment.2]? =
      some (located registers.parameters assignment).2 := by
    rw [located, List.getD_eq_getElem?_getD, List.getElem?_eq_getElem hparameter]
    rfl
  exact (assignParameter_of_start hstart assignment.1).trans
    (if_pos (h _ (List.mem_of_getElem? hstart)))

/-- Parameters that there are can all be assigned, each in the register where it starts. -/
theorem assignAll_eq (h : registers.InRange) {assignments : List (Value × Nat)}
    (hparameters : ∀ assignment ∈ assignments, assignment.2 < registers.parameters.length) :
    registers.assignAll assignments =
      .ok { registers with
        slots := (assignments.map (located registers.parameters)).foldl store
          registers.slots } := by
  induction assignments generalizing registers with
  | nil => rfl
  | cons assignment rest ih =>
    rw [assignAll_cons, assignParameter_eq h (hparameters assignment List.mem_cons_self)]
    refine ih (fun start hmem => ?_) fun other hother =>
      hparameters other (List.mem_cons_of_mem assignment hother)
    simpa only [store, List.length_set] using h start hmem

/-- Writes to different registers may be done in any order. -/
theorem foldl_store_perm {writes writes' : List (Value × Nat)} (h : writes.Perm writes')
    (hnodup : (writes.map Prod.snd).Nodup) (slots : List (Option Value)) :
    writes.foldl store slots = writes'.foldl store slots := by
  refine h.foldl_eq' (fun write hwrite other hother slots => ?_) slots
  -- Two writes to one register are the same write, since no register occurs twice.
  by_cases hregister : write.2 = other.2
  · rw [List.inj_on_of_nodup_map hnodup hwrite hother hregister]
  · exact List.set_comm _ _ hregister

/-- Values that are written where their windows start fill empty registers like arguments. -/
theorem foldl_store_zip (values : List Value) (front : List (Option Value)) :
    (values.zip (starts front.length (values.map (·.type)))).foldl store
        (front ++ List.replicate (width (values.map (·.type))) none) =
      front ++ values.flatMap argumentSlots := by
  induction values generalizing front with
  | nil => simp [width]
  | cons value rest ih =>
    have hfirst (free : Nat) :
        store (front ++ List.replicate (value.type.width + free) none) (value, front.length) =
          (front ++ argumentSlots value) ++ List.replicate free none := by
      unfold store argumentSlots TypeDescriptor.width
      split <;> simp [List.replicate_add, List.replicate_succ]
    rw [List.map_cons, starts, width, List.zip_cons_cons, List.foldl_cons, hfirst]
    have hrest := ih (front ++ argumentSlots value)
    rw [List.length_append, length_argumentSlots] at hrest
    rw [hrest, List.flatMap_cons, List.append_assoc]

/-! ## Both ways -/

/-- The assignments of all values write to the registers where the windows start. -/
theorem map_located_zipIdx (values : List Value) :
    values.zipIdx.map (located (starts 0 (values.map (·.type)))) =
      values.zip (starts 0 (values.map (·.type))) := by
  apply List.ext_getElem
  · simp
  · intro parameter hleft hright
    have hparameter : parameter < values.length := by simpa using hleft
    simp [located, hparameter]

/-- Registers that are made for the types of some values, and hold the values after they were
assigned in any order, are those that are made for the values at once: each value stands where its
window starts, nothing else is there, and there are no results. -/
theorem assigned_eq_withArguments (values : List Value) {order : List (Value × Nat)}
    (horder : order.Perm values.zipIdx) :
    (withTypes (width (values.map (·.type))) (values.map (·.type)) >>= fun registers =>
      registers.assignAll order) = .ok (withArguments values) ∧
    withArguments values =
      ⟨values.flatMap argumentSlots, starts 0 (values.map (·.type)), none, none, false⟩ := by
  let types := values.map (·.type)
  have hnew : withTypes (width types) types =
      .ok ⟨List.replicate (width types) none, starts 0 types, none, none, false⟩ := by
    rw [withTypes, if_pos (Nat.le_refl _), Nat.sub_self]
  have hparameters : ∀ assignment ∈ order, assignment.2 < (starts 0 types).length := by
    intro assignment hmem
    have hlt := List.snd_lt_of_mem_zipIdx (horder.mem_iff.1 hmem)
    simpa [types] using hlt
  have hwrites : (values.zip (starts 0 types)).Perm (order.map (located (starts 0 types))) := by
    rw [← map_located_zipIdx]
    exact (horder.map _).symm
  have hnodup : ((values.zip (starts 0 types)).map Prod.snd).Nodup := by
    rw [List.map_snd_zip (by simp [types])]
    exact (pairwise_starts 0 types).imp Nat.ne_of_lt
  refine ⟨?_, withArguments_eq values⟩
  show (withTypes (width types) types >>= _) = _
  rw [hnew, withArguments_eq]
  refine (assignAll_eq (Made.withTypes hnew).inRange hparameters).trans ?_
  have hslots : (order.map (located (starts 0 types))).foldl store
      (List.replicate (width types) none) = values.flatMap argumentSlots :=
    (foldl_store_perm hwrites hnodup _).symm.trans (foldl_store_zip values [])
  exact congrArg (fun slots => Except.ok (mk slots (starts 0 types) none none false)) hslots

/-- A long and an integer, of which the integer is assigned first. -/
theorem assigned_eq_withArguments_swapped :
    [(Value.int 2, 1), (Value.long 1, 0)].Perm [Value.long 1, Value.int 2].zipIdx ∧
    (withTypes 3 [.primitive .long, .int] >>= fun registers =>
      registers.assignAll [(Value.int 2, 1), (Value.long 1, 0)]) =
        .ok (withArguments [.long 1, .int 2]) := by
  have horder : [(Value.int 2, 1), (Value.long 1, 0)].Perm
      [Value.long 1, Value.int 2].zipIdx := .swap _ _ _
  exact ⟨horder, (assigned_eq_withArguments [.long 1, .int 2] horder).1⟩

end Dalvik.Registers
