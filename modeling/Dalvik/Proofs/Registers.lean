import Dalvik.Registers

/-!
# Windows of parameters

Registers are made for some types or for some arguments, and are written to afterwards. However that
is done, a parameter starts in a register that is there, so a read of it fails only if there is no
such parameter or if it was never assigned.
-/

namespace Dalvik.Registers

variable {registers later : Registers} {parameter start : Nat}

/-- Registers as they come about. -/
inductive Made : Registers → Prop
  | withTypes {count : Nat} {types : List TypeDescriptor} {registers : Registers} :
      withTypes count types = .ok registers → Made registers
  | withArguments (values : List Value) : Made (withArguments values)
  | assign {registers later : Registers} {register : Nat} {value : Value} :
      Made registers → registers.assign register value = .ok later → Made later
  | setReturn {registers : Registers} (value : Option Value) :
      Made registers → Made (registers.setReturn value)
  | setInvokeResult {registers : Registers} (value : Option Value) :
      Made registers → Made (registers.setInvokeResult value)
  | setTraced {registers : Registers} (traced : Bool) :
      Made registers → Made (registers.setTraced traced)

theorem assign_ok {register : Nat} {value : Value}
    (h : registers.assign register value = .ok later) :
    register < registers.slots.length ∧
      later = { registers with slots := registers.slots.set register (some value) } := by
  unfold assign at h
  split at h
  · cases h
    exact ⟨by assumption, rfl⟩
  · cases h

/-- A parameter is assigned like the register where it starts. -/
theorem assignParameter_of_start (h : registers.parameters[parameter]? = some start)
    (value : Value) : registers.assignParameter parameter value = registers.assign start value := by
  unfold Registers.assignParameter parameterStart
  rw [h]
  rfl

theorem assignParameter_of_absent (h : registers.parameters[parameter]? = none) (value : Value) :
    registers.assignParameter parameter value =
      .error (.parameterOutOfRange parameter registers.parameters.length) := by
  unfold Registers.assignParameter parameterStart
  rw [h]
  rfl

theorem assign_of_assignParameter {value : Value}
    (h : registers.assignParameter parameter value = .ok later) :
    ∃ start, registers.parameters[parameter]? = some start ∧
      registers.assign start value = .ok later := by
  cases hstart : registers.parameters[parameter]? with
  | none =>
    rw [assignParameter_of_absent hstart] at h
    cases h
  | some start => exact ⟨start, rfl, (assignParameter_of_start hstart value).symm.trans h⟩

/-- Assigning a parameter leaves the result as it is. -/
theorem returnValue_of_assignParameter {value : Value}
    (hassign : registers.assignParameter parameter value = .ok later) :
    later.returnValue = registers.returnValue := by
  obtain ⟨start, -, hstart⟩ := assign_of_assignParameter hassign
  obtain ⟨-, rfl⟩ := assign_ok hstart
  rfl

/-! ## Where parameters start -/

theorem width_pos (type : TypeDescriptor) : 0 < type.width := by
  unfold TypeDescriptor.width
  split <;> decide

theorem width_append (front back : List TypeDescriptor) :
    width (front ++ back) = width front + width back := by
  induction front with
  | nil => simp [width]
  | cons type rest ih => simp only [List.cons_append, width, ih, Nat.add_assoc]

@[simp] theorem length_starts (next : Nat) (types : List TypeDescriptor) :
    (starts next types).length = types.length := by
  induction types generalizing next with
  | nil => rfl
  | cons type rest ih => simp only [starts, List.length_cons, ih]

theorem starts_append (next : Nat) (front back : List TypeDescriptor) :
    starts next (front ++ back) = starts next front ++ starts (next + width front) back := by
  induction front generalizing next with
  | nil => rfl
  | cons type rest ih => simp only [List.cons_append, starts, width, ih, Nat.add_assoc]

/-- Every parameter starts behind the ones before it. -/
theorem getElem_starts {next : Nat} {types : List TypeDescriptor}
    (h : parameter < (starts next types).length) :
    (starts next types)[parameter] = next + width (types.take parameter) := by
  induction types generalizing next parameter with
  | nil => exact absurd h (Nat.not_lt_zero _)
  | cons type rest ih =>
    cases parameter with
    | zero => rfl
    | succ parameter => simp only [starts, List.getElem_cons_succ, ih, List.take_succ_cons, width,
        Nat.add_assoc]

/-- The parameters have these types, and their windows are at the top of the registers. -/
structure LaidOut (registers : Registers) (types : List TypeDescriptor) : Prop where
  fits : width types ≤ registers.slots.length
  starts : registers.parameters = starts (registers.slots.length - width types) types

theorem laidOut_withTypes {count : Nat} {types : List TypeDescriptor}
    (h : withTypes count types = .ok registers) : registers.LaidOut types := by
  unfold withTypes at h
  split at h
  · cases h
    exact ⟨by simpa, by simp⟩
  · cases h

theorem length_argumentSlots (value : Value) :
    (argumentSlots value).length = value.type.width := by
  unfold argumentSlots TypeDescriptor.width
  split <;> rfl

theorem LaidOut.withArgument {types : List TypeDescriptor} (h : registers.LaidOut types)
    (value : Value) : (registers.withArgument value).LaidOut (types ++ [value.type]) := by
  have hfits := h.fits
  have hlength : (registers.withArgument value).slots.length =
      registers.slots.length + value.type.width := by
    rw [Registers.withArgument, List.length_append, length_argumentSlots]
  have hwidth : width (types ++ [value.type]) = width types + value.type.width :=
    width_append types [value.type]
  refine ⟨by omega, ?_⟩
  have hfirst : registers.slots.length + value.type.width - (width types + value.type.width) =
      registers.slots.length - width types := by omega
  rw [hlength, hwidth, hfirst, starts_append, ← h.starts, Nat.sub_add_cancel hfits]
  rfl

theorem laidOut_withArguments (values : List Value) :
    (withArguments values).LaidOut (values.map (·.type)) := by
  suffices hfold : ∀ (registers : Registers) (types : List TypeDescriptor),
      registers.LaidOut types →
      (values.foldl Registers.withArgument registers).LaidOut (types ++ values.map (·.type)) from
    hfold empty [] ⟨Nat.zero_le _, rfl⟩
  induction values with
  | nil =>
    intro registers types h
    rwa [List.map_nil, List.append_nil]
  | cons value rest ih =>
    intro registers types h
    have hrest := ih _ _ (h.withArgument value)
    rwa [List.append_assoc] at hrest

/-- However registers come about, the windows of their parameters are at the top. -/
theorem Made.laidOut (h : registers.Made) : ∃ types, registers.LaidOut types := by
  induction h with
  | withTypes h => exact ⟨_, laidOut_withTypes h⟩
  | withArguments values => exact ⟨_, laidOut_withArguments values⟩
  | assign _ hassign ih =>
    obtain ⟨types, hfits, hstarts⟩ := ih
    obtain ⟨-, rfl⟩ := assign_ok hassign
    exact ⟨types, by simpa using hfits, by simpa using hstarts⟩
  | setReturn _ _ ih | setInvokeResult _ _ ih | setTraced _ _ ih =>
    obtain ⟨types, hfits, hstarts⟩ := ih
    exact ⟨types, hfits, hstarts⟩

/-! ## Every parameter starts in a register of its own -/

/-- From where a parameter starts, the ones from it on reach to the last register. -/
theorem LaidOut.start_add_width {types : List TypeDescriptor} (h : registers.LaidOut types)
    (hstart : registers.parameters[parameter]? = some start) :
    parameter < types.length ∧ start + width (types.drop parameter) = registers.slots.length := by
  rw [h.starts] at hstart
  obtain ⟨hlength, hstart⟩ := List.getElem?_eq_some_iff.1 hstart
  rw [getElem_starts] at hstart
  have hsplit := width_append (types.take parameter) (types.drop parameter)
  rw [List.take_append_drop] at hsplit
  have hfits := h.fits
  exact ⟨by simpa using hlength, by omega⟩

/-- Every parameter starts in a register that is there. -/
def InRange (registers : Registers) : Prop :=
  ∀ start ∈ registers.parameters, start < registers.slots.length

theorem Made.inRange (h : registers.Made) : registers.InRange := by
  obtain ⟨types, hlaid⟩ := h.laidOut
  intro start hmem
  obtain ⟨parameter, hstart⟩ := List.mem_iff_getElem?.1 hmem
  obtain ⟨hlength, hend⟩ := hlaid.start_add_width hstart
  rw [List.drop_eq_getElem_cons hlength, width] at hend
  have hpos := width_pos types[parameter]
  omega

theorem pairwise_starts (next : Nat) (types : List TypeDescriptor) :
    (starts next types).Pairwise (· < ·) := by
  induction types generalizing next with
  | nil => exact .nil
  | cons type rest ih =>
    rw [starts, List.pairwise_cons]
    refine ⟨fun start hmem => ?_, ih _⟩
    obtain ⟨parameter, hlength, rfl⟩ := List.mem_iff_getElem.1 hmem
    rw [getElem_starts]
    have hpos := width_pos type
    omega

theorem Made.nodup (h : registers.Made) : registers.parameters.Nodup := by
  obtain ⟨types, hlaid⟩ := h.laidOut
  rw [hlaid.starts]
  exact (pairwise_starts _ types).imp Nat.ne_of_lt

/-! ## Reads -/

/-- There is no such parameter. -/
theorem readParameter_of_absent (h : registers.parameters[parameter]? = none) :
    registers.readParameter parameter =
      .error (.parameterOutOfRange parameter registers.parameters.length) := by
  simp only [readParameter, parameterStart, h]
  rfl

/-- The parameter was never assigned. -/
theorem readParameter_of_unset (h : registers.parameters[parameter]? = some start)
    (hunset : registers.slots[start]? = some none) :
    registers.readParameter parameter = .error (.uninitializedRegister start) := by
  simp only [readParameter, parameterStart, h, bind, Except.bind, read, hunset]

theorem readParameter_of_set {value : Value} (h : registers.parameters[parameter]? = some start)
    (hset : registers.slots[start]? = some (some value)) :
    registers.readParameter parameter = .ok (start, value) := by
  simp only [readParameter, parameterStart, h, bind, Except.bind, read, hset]
  rfl

theorem readParameter_eq_ok_iff {value : Value} :
    registers.readParameter parameter = .ok (start, value) ↔
      registers.parameters[parameter]? = some start ∧
        registers.slots[start]? = some (some value) := by
  constructor
  · intro h
    cases hstart : registers.parameters[parameter]? with
    | none =>
      rw [readParameter_of_absent hstart] at h
      cases h
    | some found =>
      simp only [readParameter, parameterStart, hstart, bind, Except.bind, read] at h
      cases hslot : registers.slots[found]? with
      | none => simp [hslot] at h
      | some slot =>
        cases slot with
        | none => simp [hslot] at h
        | some content =>
          rw [hslot] at h
          cases h
          exact ⟨rfl, hslot⟩
  · intro h
    exact readParameter_of_set h.1 h.2

/-- A parameter that is assigned is read then. -/
theorem readParameter_of_assigned {value : Value}
    (hstart : registers.parameters[parameter]? = some start)
    (hassign : registers.assignParameter parameter value = .ok later) :
    later.readParameter parameter = .ok (start, value) := by
  rw [assignParameter_of_start hstart] at hassign
  obtain ⟨hlt, rfl⟩ := assign_ok hassign
  exact readParameter_of_set hstart (by simp [hlt])

/-- The other parameters start in other registers, so they are read as before. -/
theorem Made.readParameter_other {value : Value} (h : registers.Made)
    (hassign : registers.assignParameter parameter value = .ok later) {other : Nat}
    (hother : other ≠ parameter) :
    later.readParameter other = registers.readParameter other := by
  obtain ⟨start, hstart, hregister⟩ := assign_of_assignParameter hassign
  obtain ⟨-, rfl⟩ := assign_ok hregister
  cases hfound : registers.parameters[other]? with
  | none =>
    rw [readParameter_of_absent hfound]
    exact readParameter_of_absent hfound
  | some found =>
    have hne : start ≠ found := by
      rintro rfl
      have hlength := (List.getElem?_eq_some_iff.1 hstart).1
      exact hother ((List.getElem?_inj hlength h.nodup).1 (hstart.trans hfound.symm)).symm
    simp only [readParameter, parameterStart, hfound, bind, Except.bind, read,
      List.getElem?_set_ne hne, List.length_set]

theorem Made.readParameter_assignParameter {value assigned : Value} (h : registers.Made)
    (hread : registers.readParameter parameter = .ok (start, value))
    (hassign : registers.assignParameter parameter assigned = .ok later) :
    later.readParameter parameter = .ok (start, assigned) ∧
      ∀ other, other ≠ parameter → later.readParameter other = registers.readParameter other :=
  ⟨readParameter_of_assigned (readParameter_eq_ok_iff.1 hread).1 hassign,
    fun _ => h.readParameter_other hassign⟩

/-- A parameter is missing, was never assigned, or has a value. -/
theorem InRange.parameter_cases (h : registers.InRange) (parameter : Nat) :
    registers.parameters[parameter]? = none ∨
    (∃ start, registers.parameters[parameter]? = some start ∧
      registers.slots[start]? = some none) ∨
    ∃ start value, registers.readParameter parameter = .ok (start, value) := by
  cases hstart : registers.parameters[parameter]? with
  | none => exact .inl rfl
  | some start =>
    obtain ⟨slot, hslot⟩ : ∃ slot, registers.slots[start]? = some slot :=
      ⟨_, List.getElem?_eq_getElem (h start (List.mem_of_getElem? hstart))⟩
    cases slot with
    | none => exact .inr (.inl ⟨start, rfl, hslot⟩)
    | some value => exact .inr (.inr ⟨start, value, readParameter_of_set hstart hslot⟩)

end Dalvik.Registers
