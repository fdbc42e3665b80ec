import Dalvik.Proofs.Reflection.Failures
import Dalvik.Proofs.Reflection.InitOrder

/-!
# Reading a field twice

A call of `Field.get` may initialize a class, and with it run any number of initializers. Whatever
they do, the class is marked then, so that a second call initializes nothing, finds what the first
one left, and ends in the same way. It adds nothing to the lineage but its own read to the history.
-/

namespace Dalvik

open Run StaticFields

/-- What a read of a static field finds in a lineage in which its class is marked. -/
def Lineage.found (lineage : Lineage) (field : FieldId) : Value :=
  (lineage.static? field).getD (.default field.type)

/-- Nothing has happened since but reads of static fields. -/
def Lineage.Rereads (lineage later : Lineage) : Prop :=
  ∃ reads, later = { lineage with history := reads ++ lineage.history } ∧
    ∀ step ∈ reads, ∃ field value, step = .read field value

theorem Lineage.Rereads.refl (lineage : Lineage) : lineage.Rereads lineage :=
  ⟨[], rfl, nofun⟩

theorem Lineage.Rereads.record (lineage : Lineage) (field : FieldId) (value : Value) :
    lineage.Rereads (lineage.record (.read field value)) := by
  refine ⟨[.read field value], rfl, ?_⟩
  intro step hstep
  exact ⟨field, value, List.mem_singleton.1 hstep⟩

namespace Run

variable {α β : Type} {e : Execution}

/-- Run once more in the same frame and in the lineage that it left, the code ends in the same way,
and nothing happens to the lineage but reads. -/
def Repeats (action : Run α) (e : Execution) : Prop :=
  ∀ e', e'.frame = e.frame → e'.lineage = (action e).2.lineage →
    (action e').1 = (action e).1 ∧ (action e).2.lineage.Rereads (action e').2.lineage

/-- Code that depends on the frame alone and does nothing to the lineage. -/
theorem Repeats.of_frame {action : Run α}
    (h : ∀ e', e'.frame = e.frame →
      (action e').1 = (action e).1 ∧ (action e').2.lineage = e'.lineage) : Repeats action e := by
  intro e' hframe hlineage
  obtain ⟨hresult, hafter⟩ := h e' hframe
  refine ⟨hresult, ?_⟩
  rw [hafter, hlineage]
  exact .refl _

/-- The executions are in the same frame. -/
def SameFrame (e e' : Execution) : Prop :=
  e'.frame = e.frame

theorem agrees_readParameter_frame (parameter : Nat) :
    Agrees SameFrame (readParameter parameter) := by
  intro e e' h
  have hleaves := LeavesFrame.readParameter parameter
  refine ⟨by rw [readParameter_result, readParameter_result, h], ?_⟩
  exact (hleaves e').trans (h.trans (hleaves e).symm)

/-- What depends on the frame alone and changes nothing may come before. -/
theorem Repeats.bind {action : Run α} {next : α → Run β} (hagrees : Agrees SameFrame action)
    (hleaves : LeavesFrame action) (hkeeps : ∀ lineage, Keeps (· = lineage) action)
    (hnext : ∀ answer, (action e).1 = .ok answer → Repeats (next answer) (action e).2) :
    Repeats (action >>= next) e := by
  intro e' hframe hlineage
  obtain ⟨hsame, -⟩ := hagrees e e' hframe
  have hkept : (action e').2.lineage = e'.lineage := hkeeps e'.lineage e' rfl
  cases hresult : (action e).1 with
  | error failure =>
    rw [hresult] at hsame
    rw [bind_of_error hresult] at hlineage ⊢
    rw [bind_of_error hsame]
    refine ⟨rfl, ?_⟩
    rw [hkept, hlineage]
    exact .refl _
  | ok answer =>
    rw [hresult] at hsame
    rw [bind_of_ok hresult] at hlineage ⊢
    rw [bind_of_ok hsame]
    refine hnext answer hresult (action e').2 ?_ (hkept.trans hlineage)
    exact (hleaves e').trans (hframe.trans (hleaves e).symm)

theorem Repeats.map {action : Run α} (h : Repeats action e) (f : α → β) :
    Repeats (action >>= fun answer => Pure.pure (f answer)) e := by
  have hmap (e : Execution) : (action >>= fun answer => (Pure.pure (f answer) : Run β)) e =
      ((action e).1.map f, (action e).2) := by
    rw [bind_apply]
    rcases action e with ⟨failure | answer, later⟩ <;> rfl
  intro e' hframe hlineage
  simp only [hmap] at hlineage ⊢
  obtain ⟨hresult, hreads⟩ := h e' hframe hlineage
  exact ⟨congrArg (Except.map f) hresult, hreads⟩

end Run

namespace StaticFields

variable {statics : StaticFields} {e : Execution}

/-- A static field of a class that is marked is read, and that is all. -/
theorem read_apply_of_marked {field : FieldId} {declared : DeclaredField}
    (hdeclared : statics.resolve field = .ok declared)
    (h : e.lineage.isInitialized field.owner = true) :
    statics.read field e =
      (.ok (e.lineage.found field),
        { e with lineage := e.lineage.record (.read field (e.lineage.found field)) }) := by
  obtain ⟨rfl, -⟩ := resolve_ok hdeclared
  unfold read readWith
  rw [hdeclared]
  show (statics.initializeOnce declared.id.owner >>= _) e = _
  rw [bind_apply, initializeOnce_of_marked h]
  rfl

theorem read_apply_of_unresolved {field : FieldId} {fault : Fault}
    (h : statics.resolve field = .error fault) (e : Execution) :
    statics.read field e = (.error (.fault fault), e) := by
  unfold read readWith
  rw [h]
  rfl

/-- A read in a class that is marked may be repeated. -/
theorem repeats_read {field : FieldId} (h : e.lineage.isInitialized field.owner = true) :
    Repeats (statics.read field) e := by
  cases hdeclared : statics.resolve field with
  | error fault =>
    apply Repeats.of_frame
    intro e' _
    rw [read_apply_of_unresolved hdeclared, read_apply_of_unresolved hdeclared]
    exact ⟨rfl, rfl⟩
  | ok declared =>
    intro e' _ hlineage
    rw [read_apply_of_marked hdeclared h] at hlineage ⊢
    have hmarked : e'.lineage.isInitialized field.owner = true := by
      rw [hlineage]
      exact h
    rw [read_apply_of_marked hdeclared hmarked, hlineage]
    exact ⟨rfl, .record _ _ _⟩

end StaticFields

namespace Machine

variable {machine : Machine} {field : DeclaredField} {e : Execution}

/-! ## Static fields -/

/-- The class of a field was to be initialized, so it is marked, whether that failed or not. -/
theorem marked_of_initializeOwner (machine : Machine) (owner : TypeDescriptor) (e : Execution) :
    (machine.initializeOwner owner e).2.lineage.isInitialized owner = true := by
  by_cases hlocal : machine.program.isLocal owner = true
  · rw [initializeOwner_apply hlocal]
    exact marked_of_initializeOnce hlocal e
  · rw [(initializeOwner_foreign (eq_false_of_ne_true hlocal) e).2]
    split
    · assumption
    · simp

/-- A class that is marked is left alone. -/
theorem initializeOwner_of_marked {owner : TypeDescriptor}
    (h : e.lineage.isInitialized owner = true) :
    machine.initializeOwner owner e = (.ok (), e) := by
  by_cases hlocal : machine.program.isLocal owner = true
  · rw [initializeOwner_apply hlocal, initializeOnce_of_marked h]
    rfl
  · unfold initializeOwner
    rw [if_neg hlocal, Run.bind_apply, mark_apply, if_pos h]
    rfl

theorem repeats_staticContent (h : e.lineage.isInitialized field.owner = true) :
    Repeats (machine.staticContent field) e := by
  unfold staticContent
  split
  · exact repeats_read h
  · exact .of_frame fun _ _ => ⟨rfl, rfl⟩

theorem keeps_marked_staticContent (field : DeclaredField) (type : TypeDescriptor) :
    Keeps (Marked type) (machine.staticContent field) := by
  unfold staticContent
  split
  · exact readWith_of (compositional_marked type)
      (initializeWithin_of (compositional_marked type) machine.statics.initializersAsk_true _) _
  · exact .pure _

/-- A public static field is read out of the lineage that the initialization of its class leaves. -/
theorem readStatic_apply_of_public (hpublic : field.isPublic = true)
    (hran : (machine.initializeOwner field.owner e).1 = .ok ()) :
    machine.readStatic field e =
      machine.staticContent field (machine.initializeOwner field.owner e).2 := by
  unfold readStatic
  rw [openStatic_of_public hpublic, bind_of_ok hran]

/-- A static field is read again as it was, unless its class could not be initialized. -/
theorem repeats_readStatic (hspares : machine.statics.SparesRegisters)
    (h : ∀ failure, (machine.readStatic field e).1 = .error failure →
      ¬ IsInitializerFailure failure) : Repeats (machine.readStatic field) e := by
  have hmarked := marked_of_initializeOwner machine field.owner e
  cases hpublic : field.isPublic with
  | true =>
    cases hran : (machine.initializeOwner field.owner e).1 with
    | error failure =>
      have hfails : (machine.readStatic field e).1 = .error failure := by
        unfold readStatic
        rw [openStatic_of_public hpublic, bind_of_error hran]
      exact absurd (failsWith_initializeOwner field.owner e failure hran) (h failure hfails)
    | ok =>
      intro e' hframe hlineage
      have hleft : (machine.initializeOwner field.owner e).2.frame = e.frame :=
        initializeOwner_of compositional_leavesFrame hspares field.owner e
      rw [readStatic_apply_of_public hpublic hran] at hlineage ⊢
      have hagain : Repeats (machine.staticContent field) _ := repeats_staticContent hmarked
      -- The class is still marked, so nothing comes before the content.
      have hstill : e'.lineage.isInitialized field.owner = true := by
        rw [hlineage]
        exact keeps_marked_staticContent field field.owner _ hmarked
      have hopen : machine.initializeOwner field.owner e' = (.ok (), e') :=
        initializeOwner_of_marked hstill
      rw [readStatic_apply_of_public hpublic (by rw [hopen]), hopen]
      exact hagain e' (hframe.trans hleft.symm) hlineage
  | false =>
    have hdenied : ∀ e, machine.readStatic field e = _ := readStatic_apply_of_denied hpublic
    cases horder : machine.config.initOrder with
    | checkAccessFirst =>
      refine .of_frame fun e' _ => ?_
      rw [hdenied, hdenied, horder]
      exact ⟨rfl, rfl⟩
    | initializeFirst =>
      intro e' _ hlineage
      rw [hdenied, horder] at h hlineage ⊢
      rw [hdenied, horder]
      rcases hran : machine.initializeOwner field.owner e with ⟨failure | _, later⟩
      · rw [hran] at h
        have hfailed := failsWith_initializeOwner field.owner e failure (congrArg Prod.fst hran)
        exact absurd hfailed (h failure rfl)
      · rw [hran] at hlineage hmarked
        have hstill : e'.lineage.isInitialized field.owner = true := hlineage ▸ hmarked
        rw [initializeOwner_of_marked hstill]
        exact ⟨rfl, hlineage ▸ .refl _⟩

/-! ## From the call to the field -/

theorem repeats_readReflected (hspares : machine.statics.SparesRegisters)
    (h : ∀ failure, (machine.readReflected field e).1 = .error failure →
      ¬ IsInitializerFailure failure) : Repeats (machine.readReflected field) e := by
  cases hstatic : field.isStatic with
  | true =>
    have hread : machine.readReflected field = machine.readStatic field := if_pos hstatic
    rw [hread] at h ⊢
    exact repeats_readStatic hspares h
  | false =>
    refine .of_frame fun e' hframe => ⟨?_, ?_⟩
    · cases hpublic : field.isPublic with
      | true =>
        rw [readReflected_of_instance hstatic hpublic, readReflected_of_instance hstatic hpublic,
          hframe]
      | false =>
        rw [readReflected_of_denied hstatic hpublic, readReflected_of_denied hstatic hpublic]
    · exact keeps_readReflected_of_instance (I := (· = e'.lineage)) hstatic e' rfl

/-- The value of the field that a handle stands for. -/
def readHandle (machine : Machine) (handle : ReflectedField) : Run Value := do
  machine.readReflected (← Run.ofExcept (machine.declaration handle))

theorem repeats_readHandle (hspares : machine.statics.SparesRegisters) (handle : ReflectedField)
    (h : ∀ failure, (machine.readHandle handle e).1 = .error failure →
      ¬ IsInitializerFailure failure) : Repeats (machine.readHandle handle) e := by
  unfold readHandle at h ⊢
  cases hfield : machine.declaration handle with
  | error fault => exact .of_frame fun _ _ => ⟨rfl, rfl⟩
  | ok field =>
    rw [hfield] at h
    exact repeats_readReflected hspares h

/-- The value that `Field.get` finds; none if its receiver is not known. -/
def search (machine : Machine) : Run (Option Value) := do
  match ← receiver with
  | none => return none
  | some handle => return some (← machine.readHandle handle)

/-- What `Field.get` returns when its search has ended like this. -/
def returned : Except Failure (Option Value) → Value
  | .ok (some value) => (returnForm .object value).toOption.getD (.unknown .object)
  | _ => .unknown .object

theorem fieldGet_eq_search (machine : Machine) :
    machine.fieldGet = (do
      Run.returnUnknown .object
      match ← machine.search with
      | none => pure ()
      | some value => Run.returnAs .object value) := by
  unfold fieldGet search readHandle
  congr 1
  funext _
  rw [bind_assoc]
  congr 1
  funext handle?
  cases handle? with
  | none => simp
  | some handle => simp

theorem blind_search (machine : Machine) : Blind machine.search := by
  refine .bind blind_receiver fun handle? => ?_
  cases handle? with
  | none => exact .pure _
  | some handle =>
    exact .bind (.bind (.ofExcept _) fun _ => blind_readReflected _) fun _ => .pure _

theorem leavesFrame_search (hspares : machine.statics.SparesRegisters) :
    LeavesFrame machine.search := by
  refine .bind leavesFrame_receiver fun handle? => ?_
  cases handle? with
  | none => exact .pure _
  | some handle =>
    exact .bind (.bind (.ofExcept _) fun _ => leavesFrame_readReflected hspares _) fun _ => .pure _

theorem returnAs_object_frame {frame : Frame} {seed : Value} (value : Value)
    (h : e.frame = frame.returning (some seed)) :
    (Run.returnAs .object value e).2.frame =
      frame.returning (some (returned (.ok (some value)))) := by
  obtain ⟨form, hform⟩ := returnForm_object value
  have hassigned := (assignReturn_meets e.frame form e rfl).2
  unfold Run.returnAs
  simp only [returned, hform]
  refine hassigned.trans ?_
  rw [h]
  rfl

/-- The search decides everything about the call. -/
theorem fieldGet_of_search (hspares : machine.statics.SparesRegisters) (e : Execution) :
    (machine.fieldGet e).1 = (machine.search e).1.map (fun _ => ()) ∧
      (machine.fieldGet e).2.lineage = (machine.search e).2.lineage ∧
      (machine.fieldGet e).2.frame = e.frame.returning (some (returned (machine.search e).1)) := by
  obtain ⟨hok, hframe⟩ := assignReturn_meets e.frame (.unknown .object) e rfl
  obtain ⟨hresult, hsimilar⟩ := blind_search machine e _ (similar_assignReturn (.unknown .object) e)
  have hleft := (leavesFrame_search hspares _).trans hframe
  have hlineage := hsimilar.lineage
  rw [fieldGet_eq_search]
  unfold Run.returnUnknown
  rw [bind_of_ok hok]
  generalize (assignReturn (.unknown .object) e).2 = seeded at hresult hlineage hleft ⊢
  cases hfound : (machine.search e).1 with
  | error failure =>
    rw [bind_of_error (hresult.trans hfound)]
    exact ⟨rfl, hlineage, hleft⟩
  | ok found =>
    rw [bind_of_ok (hresult.trans hfound)]
    cases found with
    | none => exact ⟨rfl, hlineage, hleft⟩
    | some value =>
      refine ⟨returnAs_object_result value _, ?_, returnAs_object_frame value hleft⟩
      exact (Keeps.returnAs (I := (· = (machine.search seeded).2.lineage)) _ value _ rfl).trans
        hlineage

theorem agrees_receiver_frame : Agrees SameFrame receiver := by
  refine .bind (agrees_readParameter_frame 0) fun value => ?_
  split
  · exact .pure _
  · exact .pure _
  · exact .throw _

theorem repeats_search (hspares : machine.statics.SparesRegisters)
    (h : ∀ failure, (machine.search e).1 = .error failure → ¬ IsInitializerFailure failure) :
    Repeats machine.search e := by
  refine .bind agrees_receiver_frame leavesFrame_receiver (fun _ => keeps_receiver) ?_
  intro handle? hreceiver
  cases handle? with
  | none => exact .of_frame fun _ _ => ⟨rfl, rfl⟩
  | some handle =>
    refine .map (repeats_readHandle hspares handle fun failure hfailure => h failure ?_) some
    unfold search
    rw [bind_of_ok hreceiver]
    show ((machine.readHandle handle >>= _) (receiver e).2).1 = _
    rw [bind_of_error hfailure]

/-- The search decides everything about the call as well. -/
theorem invoke_of_search (hmethod : machine.methods.get? Method.fieldGetSignature = some .fieldGet)
    (hspares : machine.statics.SparesRegisters) (e : Execution) :
    (machine.invoke Method.fieldGetSignature e).1 =
        Outcome.ofResult ((machine.search e).1.map fun _ => ()) ∧
      (machine.invoke Method.fieldGetSignature e).2.lineage = (machine.search e).2.lineage ∧
      (machine.invoke Method.fieldGetSignature e).2.frame =
        e.frame.returning (some (returned (machine.search e).1)) := by
  have hstarts := similar_dispatched machine Method.fieldGetSignature e
  obtain ⟨hresult, hsimilar⟩ := blind_search machine e _ hstarts
  obtain ⟨hcompletes, hlineage, hframe⟩ :=
    fieldGet_of_search hspares (machine.dispatched Method.fieldGetSignature e)
  rw [frame_dispatched, hresult] at hframe
  refine ⟨?_, ?_, ?_⟩
  · rw [invoke_apply hmethod, conclude_result, hcompletes, hresult]
  · rw [invoke_apply hmethod, lineage_conclude, hlineage, hsimilar.lineage]
  · rw [invoke_apply hmethod, leavesFrame_conclude, hframe]

theorem invoke_of_absent {signature : String} (h : machine.methods.get? signature = none)
    (e : Execution) : machine.invoke signature e = (.ok .notEmulated, e) := by
  obtain ⟨nesting, hnesting⟩ : ∃ nesting, maxNesting = nesting + 1 := ⟨99999, rfl⟩
  unfold invoke
  rw [hnesting]
  unfold invokeWithin
  rw [h]
  rfl

/-- Whatever the machine, the context and the initializers are, as long as these do not write to the
registers themselves: if a call of `Field.get` does not fail because an initializer did, then the
same call, made again at once, has the same outcome or the same failure and the same result, on
parameters that are still the same; and in the lineage nothing happens but reads: no class is
marked, no initializer runs, and no static field changes. -/
theorem field_get_idempotent (machine : Machine)
    (hmethod : ∀ method, machine.methods.get? Method.fieldGetSignature = some method →
      method = .fieldGet)
    (hspares : machine.statics.SparesRegisters) {e first : Execution}
    {outcome : Except Failure Outcome}
    (hcall : machine.invoke Method.fieldGetSignature e = (outcome, first))
    (hends : ∀ culprit reason, outcome ≠ .error (.fault (.initializerFailed culprit reason))) :
    ∃ second value, machine.invoke Method.fieldGetSignature first = (outcome, second) ∧
      first.frame = e.frame.returning value ∧ second.frame = first.frame ∧
      first.lineage.Rereads second.lineage := by
  cases hfound : machine.methods.get? Method.fieldGetSignature with
  | none =>
    rw [invoke_of_absent hfound] at hcall
    cases hcall
    exact ⟨e, e.frame.registers.returnValue, invoke_of_absent hfound e, rfl, rfl, .refl _⟩
  | some method =>
    obtain rfl := hmethod method hfound
    obtain ⟨houtcome, hlineage, hframe⟩ := invoke_of_search hfound hspares e
    rw [hcall] at houtcome hlineage hframe
    have hsearch : ∀ failure, (machine.search e).1 = .error failure →
        ¬ IsInitializerFailure failure := by
      rintro _ hfailure ⟨culprit, reason, rfl⟩
      rw [hfailure] at houtcome
      exact hends culprit reason houtcome
    -- The result of the first call makes no difference to the second.
    obtain ⟨hagain, hreads⟩ := repeats_search hspares hsearch { e with lineage := first.lineage }
      rfl hlineage
    have hsimilar : Execution.Similar { e with lineage := first.lineage } first :=
      ⟨rfl, by rw [hframe]; rfl⟩
    obtain ⟨hresult, hleft⟩ := blind_search machine _ _ hsimilar
    obtain ⟨houtcome', hlineage', hframe'⟩ := invoke_of_search hfound hspares first
    rw [hresult, hagain] at houtcome' hframe'
    refine ⟨(machine.invoke Method.fieldGetSignature first).2, _, ?_, hframe, ?_, ?_⟩
    · exact Prod.ext (houtcome'.trans houtcome.symm) rfl
    · rw [hframe', hframe]
      rfl
    · rw [hlineage', hleft.lineage]
      exact hlineage ▸ hreads

/-- The first call runs an initializer that assigns the very field that is read. -/
theorem field_get_idempotent_initializing :
    let machine := Sample.machine Sample.baseWrites
    let e := Execution.passing ⟨.localClass, Sample.count⟩ (.unknown .object)
    let first := (machine.invoke Method.fieldGetSignature e).2
    machine.methods.get? Method.fieldGetSignature = some .fieldGet ∧
    machine.statics.SparesRegisters ∧
    machine.invoke Method.fieldGetSignature e = (.ok .completed, first) ∧
    ∃ second value, machine.invoke Method.fieldGetSignature first = (.ok .completed, second) ∧
      first.frame = e.frame.returning value ∧ second.frame = first.frame ∧
      first.lineage.Rereads second.lineage := by
  intro machine e first
  have hmethod : machine.methods.get? Method.fieldGetSignature = some .fieldGet := rfl
  have hspares := Sample.sparesRegisters_baseWrites Sample.program
  have hcall : machine.invoke Method.fieldGetSignature e = (.ok .completed, first) :=
    Prod.ext rfl rfl
  exact ⟨hmethod, hspares, hcall, field_get_idempotent machine
    (fun method h => Option.some.inj (h.symm.trans hmethod)) hspares hcall nofun⟩

end Machine

end Dalvik
