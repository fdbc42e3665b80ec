import Dalvik.Proofs.Reflection.Results

/-!
# The order of initialization and access check

Two machines that differ in nothing but the order in which the class of a static field is
initialized and access to the field is checked. `Field.get` can tell them apart only by a static
field that is not public: then one of them has initialized the class before access is denied, and
the other has not.
-/

namespace Dalvik

open Run StaticFields

/-- The machine that follows this order. -/
def Machine.inOrder (machine : Machine) (order : InitOrder) : Machine :=
  { machine with config := { machine.config with initOrder := order } }

/-- The method was called on this field, which is static and not public. -/
def Execution.DeniesStatic (e : Execution) (machine : Machine) (field : DeclaredField) : Prop :=
  ∃ handle, e.Receives handle ∧ machine.declaration handle = .ok field ∧
    field.isStatic = true ∧ field.isPublic = false

namespace Run

variable {α β : Type} {e : Execution}

/-- What comes after a step only matters for the answer that the step gives. -/
theorem bind_ext {action : Run α} {next next' : α → Run β}
    (h : ∀ answer, (action e).1 = .ok answer →
      next answer (action e).2 = next' answer (action e).2) :
    (action >>= next) e = (action >>= next') e := by
  rw [bind_apply, bind_apply]
  generalize action e = out at h ⊢
  obtain ⟨failure | answer, e'⟩ := out
  · rfl
  · exact h answer rfl

end Run

namespace Machine

variable {machine : Machine} {field : DeclaredField} {handle : ReflectedField} {e : Execution}

/-! ## What the call makes of the lineage and the frame -/

/-- The call leaves the lineage as the method does. -/
theorem invoke_lineage (hmethod : machine.methods.get? Method.fieldGetSignature = some .fieldGet)
    (e : Execution) :
    (machine.invoke Method.fieldGetSignature e).2.lineage = (machine.fieldGet e).2.lineage := by
  have hdispatched := similar_dispatched machine Method.fieldGetSignature e
  rw [invoke_apply hmethod, lineage_conclude]
  exact (blind_fieldGet e _ hdispatched).2.lineage

/-- A call that fails leaves an unknown result, and the rest of the frame as it is. -/
theorem invoke_frame_of_error {failure : Failure}
    (hmethod : machine.methods.get? Method.fieldGetSignature = some .fieldGet)
    (hspares : machine.statics.SparesRegisters) (hfails : (machine.fieldGet e).1 = .error failure) :
    (machine.invoke Method.fieldGetSignature e).2.frame =
      e.frame.returning (some (.unknown .object)) := by
  rw [invoke_apply hmethod, leavesFrame_conclude]
  have hdispatched := similar_dispatched machine Method.fieldGetSignature e
  have hresult := (blind_fieldGet e _ hdispatched).1.trans hfails
  have hframe := frame_dispatched machine Method.fieldGetSignature e
  obtain ⟨value, hanswer, hunknown, -⟩ := fieldGet_answers hspares _
  rw [hanswer, hframe, hunknown failure hresult]

/-- The lineage is that which reading the field leaves. -/
theorem fieldGet_lineage_of_declared (h : e.Receives handle)
    (hfield : machine.declaration handle = .ok field) :
    (machine.fieldGet e).2.lineage = (machine.readReflected field e).2.lineage := by
  refine (find_apply blind_getFrom h .object).2.lineage.trans ?_
  rw [hfield]
  show ((machine.readReflected field >>= _) e).2.lineage = _
  rw [bind_apply]
  rcases machine.readReflected field e with ⟨failure | value, e'⟩
  · rfl
  · exact Keeps.returnAs (I := (· = e'.lineage)) .object value e' rfl

/-! ## Both orders do the same -/

theorem methods_inOrder {signature : String} {method : Method}
    (hmethod : machine.methods.get? signature = some method) (order : InitOrder) :
    (machine.inOrder order).methods.get? signature = some method :=
  hmethod

/-- A static field that is public is read the same way in both orders, and a field of an object has
nothing to do with them. -/
theorem readReflected_inOrder (h : field.isStatic = true → field.isPublic = true)
    (order order' : InitOrder) :
    (machine.inOrder order).readReflected field = (machine.inOrder order').readReflected field := by
  unfold readReflected readStatic
  by_cases hstatic : field.isStatic = true
  · rw [if_pos hstatic, if_pos hstatic, openStatic_of_public (h hstatic),
      openStatic_of_public (h hstatic)]
    rfl
  · rw [if_neg hstatic, if_neg hstatic]
    rfl

theorem fieldGet_inOrder (h : ∀ field, ¬ e.DeniesStatic machine field) (order order' : InitOrder) :
    (machine.inOrder order).fieldGet e = (machine.inOrder order').fieldGet e := by
  unfold fieldGet
  apply bind_ext
  intro _ _
  -- The result is unknown by now, and the receiver is still the same.
  apply bind_ext
  intro receiver? hreceiver
  cases receiver? with
  | none => rfl
  | some handle =>
    apply bind_ext
    intro field hfield
    have hdeclared : machine.declaration handle = .ok field := by
      change (Run.ofExcept (machine.declaration handle) _).1 = _ at hfield
      cases hdeclaration : machine.declaration handle with
      | ok found => rw [hdeclaration] at hfield; cases hfield; rfl
      | error fault => rw [hdeclaration] at hfield; cases hfield
    have hreceives : e.Receives handle := by
      have hsimilar := similar_assignReturn (.unknown .object) e
      exact receives_of_receiver ((blind_receiver e _ hsimilar).1.symm.trans hreceiver)
    rw [readReflected_inOrder fun hstatic => ?_]
    -- The orders agree if the field is public when it is static, and it is, since it is not denied.
    by_contra hpublic
    exact h field ⟨handle, hreceives, hdeclared, hstatic, eq_false_of_ne_true hpublic⟩

/-! ## The orders differ -/

theorem initializeOwner_foreign {owner : TypeDescriptor}
    (hforeign : machine.program.isLocal owner = false) (e : Execution) :
    (machine.initializeOwner owner e).1 = .ok () ∧
      (machine.initializeOwner owner e).2.lineage =
        if e.lineage.isInitialized owner then e.lineage
        else (e.lineage.mark owner).record (.foreign owner) := by
  unfold initializeOwner
  rw [if_neg (ne_true_of_eq_false hforeign), bind_apply, mark_apply]
  cases e.lineage.isInitialized owner with
  | true => exact ⟨rfl, rfl⟩
  | false => exact ⟨rfl, rfl⟩

/-- The method reads the field that it was called on, and its result can be put away. -/
theorem fieldGet_of_deniesStatic (h : e.DeniesStatic machine field) :
    (machine.fieldGet e).1 = (machine.readStatic field e).1.map (fun _ => ()) ∧
      (machine.fieldGet e).2.lineage = (machine.readStatic field e).2.lineage := by
  obtain ⟨handle, hreceives, hfield, hstatic, -⟩ := h
  have hread : machine.readReflected field = machine.readStatic field := if_pos hstatic
  rw [fieldGet_of_declared hreceives hfield, fieldGet_lineage_of_declared hreceives hfield, hread]
  exact ⟨rfl, rfl⟩

/-- Access is denied before anything else happens. -/
theorem fieldGet_of_checkAccessFirst (h : e.DeniesStatic machine field) :
    ((machine.inOrder .checkAccessFirst).fieldGet e).1 =
        .error (.fault (.accessDenied field.id field.visibility)) ∧
      ((machine.inOrder .checkAccessFirst).fieldGet e).2.lineage = e.lineage := by
  have hdenies : e.DeniesStatic (machine.inOrder .checkAccessFirst) field := h
  obtain ⟨hresult, hlineage⟩ := fieldGet_of_deniesStatic hdenies
  obtain ⟨-, -, -, -, hdenied⟩ := h
  rw [hresult, hlineage, readStatic_apply_of_denied hdenied]
  exact ⟨rfl, rfl⟩

/-- The class is initialized before access is denied, or that fails. -/
theorem fieldGet_of_initializeFirst (h : e.DeniesStatic machine field) :
    ((machine.inOrder .initializeFirst).fieldGet e).1 =
        (match (machine.initializeOwner field.owner e).1 with
        | .ok () => .error (.fault (.accessDenied field.id field.visibility))
        | .error failure => .error failure) ∧
      ((machine.inOrder .initializeFirst).fieldGet e).2.lineage =
        (machine.initializeOwner field.owner e).2.lineage := by
  have hdenies : e.DeniesStatic (machine.inOrder .initializeFirst) field := h
  obtain ⟨hresult, hlineage⟩ := fieldGet_of_deniesStatic hdenies
  obtain ⟨-, -, -, -, hdenied⟩ := h
  have howner : (machine.inOrder .initializeFirst).initializeOwner field.owner =
      machine.initializeOwner field.owner := rfl
  rw [hresult, hlineage, readStatic_apply_of_denied hdenied, howner]
  rcases machine.initializeOwner field.owner e with ⟨failure | _, e'⟩
  · exact ⟨rfl, rfl⟩
  · exact ⟨rfl, rfl⟩

/-- How the call of `Field.get` on a static field that is not public ends in the one order, and how
in the other. -/
structure DeniedInOrder (machine : Machine) (e : Execution) (field : DeclaredField) : Prop where
  /-- If access is checked first, it is denied. -/
  checked : ((machine.inOrder .checkAccessFirst).invoke Method.fieldGetSignature e).1 =
    .ok (.threw .illegalAccess (.accessDenied field.id field.visibility))
  /-- Then the lineage is exactly what it was. -/
  untouched :
    ((machine.inOrder .checkAccessFirst).invoke Method.fieldGetSignature e).2.lineage = e.lineage
  /-- If the class is initialized first, the lineage is exactly what that makes of it. -/
  initialized : machine.program.isLocal field.owner = true →
    ((machine.inOrder .initializeFirst).invoke Method.fieldGetSignature e).2.lineage =
      (machine.statics.initializeOnce field.owner e).2.lineage
  /-- A class that is not local is only marked. -/
  marked : machine.program.isLocal field.owner = false →
    ((machine.inOrder .initializeFirst).invoke Method.fieldGetSignature e).2.lineage =
      if e.lineage.isInitialized field.owner then e.lineage
      else (e.lineage.mark field.owner).record (.foreign field.owner)
  /-- Then access is denied as well, unless the initialization fails. -/
  denied :
    (machine.program.isLocal field.owner = true →
      ∃ ran, (machine.statics.initializeOnce field.owner e).1 = .ok ran) →
    ((machine.inOrder .initializeFirst).invoke Method.fieldGetSignature e).1 =
      .ok (.threw .illegalAccess (.accessDenied field.id field.visibility))
  /-- If it fails, the call fails in the same way. -/
  failed {failure : Failure} : machine.program.isLocal field.owner = true →
    (machine.statics.initializeOnce field.owner e).1 = .error failure →
    IsInitializerFailure failure ∧
    ((machine.inOrder .initializeFirst).invoke Method.fieldGetSignature e).1 = .error failure
  /-- In either order the result is unknown, and nothing else has changed in the frame. -/
  unknown (order : InitOrder) :
    ((machine.inOrder order).invoke Method.fieldGetSignature e).2.frame =
      e.frame.returning (some (.unknown .object))

theorem deniedInOrder (hmethod : machine.methods.get? Method.fieldGetSignature = some .fieldGet)
    (hspares : machine.statics.SparesRegisters) (h : e.DeniesStatic machine field) :
    machine.DeniedInOrder e field := by
  obtain ⟨hchecked, huntouched⟩ := fieldGet_of_checkAccessFirst h
  obtain ⟨hresult, hlineage⟩ := fieldGet_of_initializeFirst h
  have hmethods := methods_inOrder hmethod
  have hinvoke (order : InitOrder) := invoke_result (hmethods order) e
  have hinvoked (order : InitOrder) := invoke_lineage (hmethods order) e
  constructor
  case checked =>
    rw [hinvoke, hchecked]
    rfl
  case untouched => rw [hinvoked, huntouched]
  case initialized =>
    intro hlocal
    rw [hinvoked, hlineage, initializeOwner_apply hlocal]
  case marked =>
    intro hforeign
    rw [hinvoked, hlineage, (initializeOwner_foreign hforeign e).2]
  case denied =>
    intro hsucceeds
    rw [hinvoke, hresult]
    by_cases hlocal : machine.program.isLocal field.owner = true
    · obtain ⟨ran, hran⟩ := hsucceeds hlocal
      rw [initializeOwner_apply hlocal, hran]
      rfl
    · rw [(initializeOwner_foreign (eq_false_of_ne_true hlocal) e).1]
      rfl
  case failed =>
    intro failure hlocal hfails
    have hwrapped := failsWith_initializeOnce machine.statics field.owner e failure hfails
    refine ⟨hwrapped, ?_⟩
    obtain ⟨culprit, reason, rfl⟩ := hwrapped
    rw [hinvoke, hresult, initializeOwner_apply hlocal, hfails]
    rfl
  case unknown =>
    intro order
    have hfails : ∃ failure, ((machine.inOrder order).fieldGet e).1 = .error failure := by
      cases order with
      | checkAccessFirst => exact ⟨_, hchecked⟩
      | initializeFirst =>
        rw [hresult]
        cases (machine.initializeOwner field.owner e).1 with
        | ok => exact ⟨_, rfl⟩
        | error failure => exact ⟨_, rfl⟩
    obtain ⟨failure, hfailure⟩ := hfails
    exact invoke_frame_of_error (hmethods order) hspares hfailure

/-- Whatever the state is in which `Field.get` is called, and whatever the initializers do except
write to the registers: in which order a class is initialized and access is checked makes no
difference at all unless the field is static and not public. If it is, the orders differ in the
initialization of its class, and in nothing else. -/
theorem init_order_only_moves_initialization (machine : Machine)
    (hmethod : machine.methods.get? Method.fieldGetSignature = some .fieldGet)
    (hspares : machine.statics.SparesRegisters) (e : Execution) :
    ((∀ field, ¬ e.DeniesStatic machine field) →
      (machine.inOrder .initializeFirst).invoke Method.fieldGetSignature e =
        (machine.inOrder .checkAccessFirst).invoke Method.fieldGetSignature e) ∧
    ∀ field, e.DeniesStatic machine field → machine.DeniedInOrder e field := by
  constructor
  · intro hallowed
    have hdispatched (order : InitOrder) :
        (machine.inOrder order).dispatched Method.fieldGetSignature e =
          machine.dispatched Method.fieldGetSignature e := rfl
    have hframe := frame_dispatched machine Method.fieldGetSignature e
    -- The report that a traced dispatch begins with does not change the receiver.
    have hstill : ∀ field,
        ¬ (machine.dispatched Method.fieldGetSignature e).DeniesStatic machine field := by
      intro field hdenied
      unfold Execution.DeniesStatic Execution.Receives at hdenied
      rw [hframe] at hdenied
      exact hallowed field hdenied
    have hmethods := methods_inOrder hmethod
    rw [invoke_apply (hmethods .initializeFirst), invoke_apply (hmethods .checkAccessFirst),
      hdispatched, hdispatched, fieldGet_inOrder hstill .initializeFirst .checkAccessFirst]
  · intro field hdenied
    exact deniedInOrder hmethod hspares hdenied

end Machine

namespace Sample

/-- A static field of `base` that is not public. -/
def secret : DeclaredField := ⟨⟨base, "P", .int⟩, .privateFlag ||| .staticFlag⟩

/-- The local class `base` with the field `secret`. -/
def guarded : Program where
  definitions := [.withField (.withParent (.ofName base) none) ⟨"P", .int, secret.flags⟩]
  distinct := by decide

end Sample

namespace Machine

/-- The initializer of the class fails: only the machine that runs it fails, too. -/
theorem init_order_only_moves_initialization_failing :
    let machine : Machine :=
      { Machine.ofProgram Sample.guarded with statics := ⟨Sample.guarded, some Sample.baseFails⟩ }
    let e := Execution.passing ⟨.localClass, Sample.secret.id⟩ (.unknown .object)
    machine.methods.get? Method.fieldGetSignature = some .fieldGet ∧
    machine.statics.SparesRegisters ∧ e.DeniesStatic machine Sample.secret ∧
    ((machine.inOrder .checkAccessFirst).invoke Method.fieldGetSignature e).1 =
      .ok (.threw .illegalAccess (.accessDenied Sample.secret.id .ownClass)) ∧
    ((machine.inOrder .initializeFirst).invoke Method.fieldGetSignature e).1 =
      .error (.fault (.initializerFailed Sample.base "boom")) := by
  intro machine e
  have hmethod : machine.methods.get? Method.fieldGetSignature = some .fieldGet := rfl
  have hspares := Sample.sparesRegisters_baseFails Sample.guarded
  have hdenied : e.DeniesStatic machine Sample.secret :=
    ⟨⟨.localClass, Sample.secret.id⟩, ⟨0, ⟨0, 0⟩, .field, rfl⟩, rfl, by decide, by decide⟩
  have horders :=
    (init_order_only_moves_initialization machine hmethod hspares e).2 Sample.secret hdenied
  exact ⟨hmethod, hspares, hdenied, horders.checked, (horders.failed rfl rfl).2⟩

end Machine

end Dalvik
