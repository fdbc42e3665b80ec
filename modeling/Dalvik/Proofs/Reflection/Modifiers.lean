import Dalvik.Proofs.Reflection.Boxing
import Dalvik.Proofs.Reflection.InitOrder
import Mathlib.Data.Nat.Bitwise

/-!
# What modifiers tell about a read

`Field.getModifiers` and `Field.get` look up the same declaration and then go different ways: one
masks the flags and returns them as a number, the other decides by them who may read the field and
where its value is. So the number tells what the read can come to.
-/

namespace Dalvik

open Run StaticFields

namespace AccessFlags

variable {flags flag : AccessFlags}

/-! ## The number that stands for the flags -/

/-- None of the modifiers is the sign of the number. -/
theorem modifiers_nonneg (flags : AccessFlags) : 0 ≤ flags.modifiers.bits.toInt32 := by
  have hmasked : flags.modifiers.bits.toBitVec.toNat ≤ 0xDF := by
    show (flags.bits &&& 0xDF).toNat ≤ 0xDF
    rw [UInt32.toNat_and]
    exact Nat.and_le_right
  rw [Int32.le_iff_toInt_le]
  show 0 ≤ flags.modifiers.bits.toBitVec.toInt
  rw [BitVec.toInt_eq_toNat_of_lt (by omega)]
  exact Int.natCast_nonneg _

theorem toInt32_eq_zero_iff {bits : UInt32} : bits.toInt32 = 0 ↔ bits = 0 := by
  constructor
  · intro h
    exact congrArg Int32.toUInt32 h
  · rintro rfl
    rfl

/-- Of a flag that is a single bit either nothing is set or all of it. -/
theorem contains_eq_false_iff {position : Nat} (hflag : flag.bits.toNat = 2 ^ position) :
    flags.contains flag = false ↔ flags.bits &&& flag.bits = 0 := by
  have hpos : 0 ≠ 2 ^ position := (Nat.two_pow_pos position).ne
  have hcontains : flags.contains flag = false ↔ flags.bits &&& flag.bits ≠ flag.bits := by
    rw [contains, beq_eq_false_iff_ne, ne_eq, ne_eq, AccessFlags.mk.injEq]
    rfl
  rw [hcontains, ne_eq, ← UInt32.toNat_inj, ← UInt32.toNat_inj, UInt32.toNat_and, hflag,
    Nat.and_two_pow, UInt32.toNat_zero]
  cases flags.bits.toNat.testBit position <;> simp [hpos]

/-- A modifier is set in the number just if it is set in the flags. -/
theorem modifiers_and_eq_zero_iff (flag : AccessFlags) (position : Nat)
    (hflag : flag.bits.toNat = 2 ^ position) (hmask : modifierMask.contains flag = true) :
    flags.modifiers.bits.toInt32 &&& flag.bits.toInt32 = 0 ↔ flags.contains flag = false := by
  have hbits : flags.modifiers.bits &&& flag.bits = flags.bits &&& flag.bits := by
    show flags.bits &&& modifierMask.bits &&& flag.bits = _
    rw [UInt32.and_assoc]
    exact congrArg (flags.bits &&& ·) (congrArg AccessFlags.bits (eq_of_beq hmask))
  rw [← UInt32.toInt32_and, hbits, toInt32_eq_zero_iff, contains_eq_false_iff hflag]

theorem isPublic_eq_contains (flags : AccessFlags) :
    flags.isPublic = flags.contains publicFlag := by
  unfold isPublic visibility
  cases flags.contains publicFlag with
  | true => rfl
  | false =>
    cases flags.contains privateFlag with
    | true => rfl
    | false => cases flags.contains protectedFlag <;> rfl

end AccessFlags

namespace DeclaredField

variable {field : DeclaredField}

/-- The modifiers of a field, as the number that reflection returns. -/
def modifiers (field : DeclaredField) : Int32 :=
  field.flags.modifiers.bits.toInt32

theorem isPublic_eq_false_iff : field.isPublic = false ↔ field.modifiers &&& 0x1 = 0 := by
  unfold isPublic
  rw [AccessFlags.isPublic_eq_contains]
  exact (AccessFlags.modifiers_and_eq_zero_iff .publicFlag 0 rfl rfl).symm

theorem isStatic_eq_false_iff : field.isStatic = false ↔ field.modifiers &&& 0x8 = 0 :=
  (AccessFlags.modifiers_and_eq_zero_iff .staticFlag 3 rfl rfl).symm

end DeclaredField

/-! ## How calls end -/

namespace Outcome

variable {ended : Except Failure Unit} {exception : ExceptionClass} {fault : Fault}

/-- The call threw an exception of this class. -/
def Throws (answer : Except Failure Outcome) (exception : ExceptionClass) : Prop :=
  ∃ cause, answer = .ok (.threw exception cause)

/-- The call ended with this fault, thrown or not. -/
def EndsWith (answer : Except Failure Outcome) (fault : Fault) : Prop :=
  (∃ exception, answer = .ok (.threw exception fault)) ∨ answer = .error (.fault fault)

theorem fault_of_throws (h : Throws (ofResult ended) exception) :
    ∃ cause, ended = .error (.fault cause) ∧ cause.exceptionClass? = some exception := by
  obtain ⟨cause, h⟩ := h
  obtain ⟨-, hcompleted⟩ | ⟨found, thrown, hfails, hclass, hthrew⟩ := ofResult_eq_ok h
  · cases hcompleted
  · cases hthrew
    exact ⟨cause, hfails, hclass⟩

theorem error_of_endsWith (h : EndsWith (ofResult ended) fault) :
    ended = .error (.fault fault) := by
  obtain ⟨exception, h⟩ | h := h
  · obtain ⟨-, hcompleted⟩ | ⟨found, thrown, hfails, -, hthrew⟩ := ofResult_eq_ok h
    · cases hcompleted
    · cases hthrew
      exact hfails
  · exact Machine.ofResult_eq_error h

end Outcome

/-- A failed read is not taken for a field that does not exist. -/
theorem DeclaredField.ReadFails.exceptionClass?_ne {field : DeclaredField} {cause : Fault}
    (h : field.ReadFails (.fault cause)) : cause.exceptionClass? ≠ some .noSuchField := by
  cases h with
  | noObject _ hunread => cases hunread <;> nofun
  | invalid _ problem => cases problem <;> simp [Fault.exceptionClass?] <;> decide
  | denied => simp [Fault.exceptionClass?]; decide
  | _ => nofun

namespace Machine

variable {machine : Machine} {field : DeclaredField} {handle : ReflectedField} {e : Execution}

/-- What the modifiers of a field tell about a read of it, called in `e`. -/
structure Foretells (modifiers : Int32) (e : Execution)
    (read : Except Failure Outcome × Execution) : Prop where
  denied : modifiers &&& 0x1 = 0 → read.1 ≠ .ok .completed
  allowed : modifiers &&& 0x1 ≠ 0 →
    ∀ id visibility, ¬ Outcome.EndsWith read.1 (.accessDenied id visibility)
  anyInstance : modifiers &&& 0x8 ≠ 0 →
    ∀ id problem, ¬ Outcome.EndsWith read.1 (.invalidInstance id problem)
  noInstance : modifiers &&& 0x8 ≠ 0 →
    ∀ fault, Registers.Unread 1 fault → ¬ Outcome.EndsWith read.1 fault
  untouched : modifiers &&& 0x8 = 0 → read.2.lineage = e.lineage

/-! ## Asking for the modifiers -/

/-- The result is no part of the receiver. -/
theorem receives_of_frame {now : Execution} {value : Option Value} (h : e.Receives handle)
    (hframe : now.frame = e.frame.returning value) : now.Receives handle := by
  unfold Execution.Receives
  rw [hframe]
  exact h

theorem returnAs_int (number : Int32) (e : Execution) :
    (Run.returnAs .int (.int number) e).1 = .ok () ∧
      (Run.returnAs .int (.int number) e).2.frame = e.frame.returning (some (.int number)) :=
  assignReturn_meets e.frame (.int number) e rfl

theorem fieldGetModifiers_of_declared (h : e.Receives handle)
    (hfield : machine.declaration handle = .ok field) :
    (machine.fieldGetModifiers e).1 = .ok () ∧
      (machine.fieldGetModifiers e).2.frame = e.frame.returning (some (.int field.modifiers)) := by
  obtain ⟨hseed, hframe⟩ := assignReturn_meets e.frame (.unknown .int) e rfl
  unfold fieldGetModifiers Run.returnUnknown
  rw [bind_of_ok hseed, bind_of_ok (receiver_result (receives_of_frame h hframe))]
  dsimp only
  rw [hfield]
  obtain ⟨hcommit, hresult⟩ := returnAs_int field.modifiers
    (receiver (assignReturn (.unknown .int) e).2).2
  refine ⟨hcommit, hresult.trans ?_⟩
  rw [leavesFrame_receiver, hframe]
  rfl

theorem fieldGetModifiers_of_undeclared {fault : Fault} (h : e.Receives handle)
    (hfield : machine.declaration handle = .error fault) :
    (machine.fieldGetModifiers e).1 = .error (.fault fault) := by
  refine (find_apply (machine.blind_onField .fieldGetModifiers) h .int).1.trans ?_
  show (((Run.ofExcept (machine.declaration handle)) >>= _) e).1 = _
  rw [hfield]
  rfl

/-! ## Reading the field -/

theorem readFails_of_error {failure : Failure}
    (h : ((machine.readReflected field e).1.map fun _ => ()) = .error failure) :
    field.ReadFails failure := by
  cases hread : (machine.readReflected field e).1 with
  | ok value =>
    rw [hread] at h
    cases h
  | error found =>
    rw [hread] at h
    cases h
    exact failsWith_readReflected field e _ hread

/-- Each flag is decisive for one way in which a read may fail. -/
theorem foretells_readReflected (field : DeclaredField) (e : Execution)
    {read : Except Failure Outcome × Execution}
    (hresult : read.1 = Outcome.ofResult ((machine.readReflected field e).1.map fun _ => ()))
    (hlineage : read.2.lineage = (machine.readReflected field e).2.lineage) :
    Foretells field.modifiers e read := by
  have hends {fault : Fault} (h : Outcome.EndsWith read.1 fault) :
      field.ReadFails (.fault fault) := by
    rw [hresult] at h
    exact readFails_of_error (Outcome.error_of_endsWith h)
  constructor
  case denied =>
    intro hpublic hcompleted
    have hdenied := DeclaredField.isPublic_eq_false_iff.2 hpublic
    obtain ⟨failure, hfails⟩ : ∃ failure, (machine.readReflected field e).1 = .error failure :=
      readReflected_error_of_denied hdenied e
    rw [hresult, hfails] at hcompleted
    cases Outcome.ok_of_completed hcompleted
  case allowed =>
    intro hpublic id visibility h
    cases hends h with
    | denied hdenied => exact hpublic (DeclaredField.isPublic_eq_false_iff.1 hdenied)
    | noObject _ hunread => cases hunread
  case anyInstance =>
    intro hstatic id problem h
    cases hends h with
    | noObject _ hunread => cases hunread
    | invalid hinstance => exact hstatic (DeclaredField.isStatic_eq_false_iff.1 hinstance)
  case noInstance =>
    intro hstatic fault hunread h
    cases hends h with
    | noObject hinstance => exact hstatic (DeclaredField.isStatic_eq_false_iff.1 hinstance)
    | _ => cases hunread
  case untouched =>
    intro hinstance
    rw [hlineage]
    exact keeps_readReflected_of_instance (I := (· = e.lineage))
      (DeclaredField.isStatic_eq_false_iff.2 hinstance) e rfl

/-- A field that is declared is not read as one that does not exist, whatever its class runs. -/
theorem not_throws_noSuchField
    (hmethod : machine.methods.get? Method.fieldGetSignature = some .fieldGet)
    (hreceives : e.Receives handle) (hfield : machine.declaration handle = .ok field) :
    ¬ Outcome.Throws (machine.invoke Method.fieldGetSignature e).1 .noSuchField := by
  rw [invoke_result hmethod, fieldGet_of_declared hreceives hfield]
  intro hthrows
  obtain ⟨cause, hfails, hclass⟩ := Outcome.fault_of_throws hthrows
  exact (readFails_of_error hfails).exceptionClass?_ne hclass

/-- Whatever the machine is, what its platform knows, what flags its fields have and what its
initializers do: `Field.getModifiers` and `Field.get`, called on the same field in the same state,
either both throw that there is no such field, or the first one completes with the named flags of
the field as a number that is not negative, and its bits for public and static tell how the second
one can end and whether it leaves the static fields alone. -/
theorem modifiers_foretell_read (machine : Machine)
    (hget : machine.methods.get? Method.fieldGetSignature = some .fieldGet)
    (hmodifiers :
      machine.methods.get? Method.fieldGetModifiersSignature = some .fieldGetModifiers)
    (hreceives : e.Receives handle) :
    let asked := machine.invoke Method.fieldGetModifiersSignature e
    let read := machine.invoke Method.fieldGetSignature e
    (Outcome.Throws asked.1 .noSuchField ↔ Outcome.Throws read.1 .noSuchField) ∧
    (¬ Outcome.Throws asked.1 .noSuchField →
      ∃ field number, machine.declaration handle = .ok field ∧
        asked.1 = .ok .completed ∧
        asked.2.frame.registers.returnValue = some (.int number) ∧
        0 ≤ number ∧ number.toUInt32 = field.flags.bits &&& 0xDF ∧
        Foretells number e read) := by
  intro asked read
  obtain ⟨hasked, hframe, -⟩ := invoke_effect hmodifiers e
  have hdispatched :
      (machine.dispatched Method.fieldGetModifiersSignature e).Receives handle :=
    receives_dispatched hreceives _
  cases hfield : machine.declaration handle with
  | error fault =>
    have hthrows : Outcome.Throws asked.1 .noSuchField ∧ Outcome.Throws read.1 .noSuchField := by
      cases declaration_error hfield
      constructor
      · refine ⟨.noSuchField handle.field, hasked.trans ?_⟩
        show Outcome.ofResult (machine.fieldGetModifiers _).1 = _
        rw [fieldGetModifiers_of_undeclared hdispatched hfield]
        rfl
      · refine ⟨.noSuchField handle.field, (invoke_result hget e).trans ?_⟩
        rw [fieldGet_of_undeclared hreceives hfield]
        rfl
    exact ⟨iff_of_true hthrows.1 hthrows.2, fun h => absurd hthrows.1 h⟩
  | ok field =>
    obtain ⟨hcommit, hresult⟩ := fieldGetModifiers_of_declared hdispatched hfield
    have hcompleted : asked.1 = .ok .completed := by
      refine hasked.trans ?_
      show Outcome.ofResult (machine.fieldGetModifiers _).1 = _
      rw [hcommit]
      rfl
    have hthrowsNot : ¬ Outcome.Throws asked.1 .noSuchField := by
      rintro ⟨cause, hthrew⟩
      rw [hcompleted] at hthrew
      cases hthrew
    refine ⟨iff_of_false hthrowsNot (not_throws_noSuchField hget hreceives hfield), ?_⟩
    intro _
    refine ⟨field, field.modifiers, rfl, hcompleted, ?_, AccessFlags.modifiers_nonneg _, rfl, ?_⟩
    · rw [hframe]
      show (machine.fieldGetModifiers _).2.frame.registers.returnValue = _
      rw [hresult]
      rfl
    · apply foretells_readReflected field e
      · exact (invoke_result hget e).trans
          (congrArg Outcome.ofResult (fieldGet_of_declared hreceives hfield))
      · exact (invoke_lineage hget e).trans (fieldGet_lineage_of_declared hreceives hfield)

/-- The field is private and static, and the initializer of its class fails. -/
theorem modifiers_foretell_read_secret :
    let machine : Machine :=
      { Machine.ofProgram Sample.guarded with statics := ⟨Sample.guarded, some Sample.baseFails⟩ }
    let e := Execution.passing ⟨.localClass, Sample.secret.id⟩ (.unknown .object)
    machine.methods.get? Method.fieldGetSignature = some .fieldGet ∧
    machine.methods.get? Method.fieldGetModifiersSignature = some .fieldGetModifiers ∧
    e.Receives ⟨.localClass, Sample.secret.id⟩ ∧
    ¬ Outcome.Throws (machine.invoke Method.fieldGetModifiersSignature e).1 .noSuchField ∧
    Foretells 0xA e (machine.invoke Method.fieldGetSignature e) := by
  intro machine e
  have hget : machine.methods.get? Method.fieldGetSignature = some .fieldGet := rfl
  have hmodifiers :
      machine.methods.get? Method.fieldGetModifiersSignature = some .fieldGetModifiers := rfl
  have hreceives : e.Receives ⟨.localClass, Sample.secret.id⟩ := ⟨0, ⟨0, 0⟩, .field, rfl⟩
  have hthrowsNot :
      ¬ Outcome.Throws (machine.invoke Method.fieldGetModifiersSignature e).1 .noSuchField := by
    rintro ⟨cause, hthrew⟩
    cases hthrew
  obtain ⟨field, number, hfield, -, -, -, hnumber, hforetells⟩ :=
    (modifiers_foretell_read machine hget hmodifiers hreceives).2 hthrowsNot
  cases hfield
  have hten : number = 0xA := congrArg UInt32.toInt32 hnumber
  rw [hten] at hforetells
  exact ⟨hget, hmodifiers, hreceives, hthrowsNot, hforetells⟩

end Machine

end Dalvik
