import Dalvik.Proofs.Triples
import Dalvik.StaticFields

/-!
# Where values are held

A property of values, asked of every value that a state holds: of those in registers and slots, of
those in static fields, and of those that the history tells were read or assigned. `Carries` is
about runs that keep such a state such a state; there is one rule for each way to put runs together.
The answers of a run are values too, or hold some, so the rules hand on what is known about them.
-/

namespace Dalvik

open Run

/-- The library makes no value without the property out of values with it. -/
structure Value.Closed (P : Value → Prop) : Prop where
  unknown (type : TypeDescriptor) : P (.unknown type)
  default (type : TypeDescriptor) : P (.default type)
  int (value : Int32) : P (.int value)
  string (text : String) : P (.string text)
  unboxed {value : Value} : P value → P value.unboxed
  returned {type : TypeDescriptor} {value form : Value} :
    P value → returnForm type value = .ok form → P form
  tracked {identity : Identity} {object : ObjectState} {type : TypeDescriptor} {field : FieldId}
      {value : Value} :
    P (.known (.object identity object) type) → object.content? field = some value → P value

/-- The value that was read or assigned. -/
def StaticStep.value? : StaticStep → Option Value
  | read _ value | wrote _ value => some value
  | _ => none

section States

variable (P : Value → Prop)

/-- All values in registers and slots have the property. -/
structure Registers.Holds (registers : Registers) : Prop where
  slots : ∀ value, some value ∈ registers.slots → P value
  returnValue : ∀ value ∈ registers.returnValue, P value
  invokeResult : ∀ value ∈ registers.invokeResult, P value

/-- All values in static fields have the property, and all that were ever read or assigned there. -/
structure Lineage.Holds (lineage : Lineage) : Prop where
  statics : ∀ field, ∀ value ∈ lineage.static? field, P value
  history : ∀ step ∈ lineage.history, ∀ value ∈ step.value?, P value

/-- All values that code can reach have the property. -/
structure Execution.Holds (e : Execution) : Prop where
  registers : e.frame.registers.Holds P
  lineage : e.lineage.Holds P

end States

variable {P : Value → Prop}

theorem holds_of_mem_some {value : Value} (h : P value) : ∀ found ∈ some value, P found := by
  rintro _ ⟨⟩
  exact h

/-! ## Registers -/

namespace Registers

variable {registers : Registers} {value : Value}

theorem holds_empty : empty.Holds P := by
  constructor <;> simp [empty]

theorem Holds.setReturn (h : registers.Holds P) {result : Option Value}
    (hresult : ∀ value ∈ result, P value) : (registers.setReturn result).Holds P :=
  ⟨h.slots, hresult, h.invokeResult⟩

theorem Holds.setInvokeResult (h : registers.Holds P) {result : Option Value}
    (hresult : ∀ value ∈ result, P value) : (registers.setInvokeResult result).Holds P :=
  ⟨h.slots, h.returnValue, hresult⟩

theorem Holds.setTraced (h : registers.Holds P) (traced : Bool) :
    (registers.setTraced traced).Holds P :=
  ⟨h.slots, h.returnValue, h.invokeResult⟩

theorem Holds.withArgument (h : registers.Holds P) (hvalue : P value) :
    (registers.withArgument value).Holds P := by
  refine ⟨?_, h.returnValue, h.invokeResult⟩
  intro other hother
  rcases List.mem_append.1 hother with hold | hnew
  · exact h.slots other hold
  · have hsame : other = value := by
      unfold argumentSlots at hnew
      split at hnew <;> simpa using hnew
    exact hsame ▸ hvalue

theorem holds_withArguments {values : List Value} (h : ∀ value ∈ values, P value) :
    (withArguments values).Holds P := by
  -- For the induction, the arguments are added to any registers with the property.
  suffices ∀ registers : Registers, registers.Holds P →
      (values.foldl withArgument registers).Holds P from this empty holds_empty
  induction values with
  | nil => exact fun _ hregisters => hregisters
  | cons value rest ih =>
    intro registers hregisters
    obtain ⟨hvalue, hrest⟩ := List.forall_mem_cons.1 h
    exact ih hrest _ (hregisters.withArgument hvalue)

theorem Holds.read (h : registers.Holds P) {register : Nat}
    (hread : registers.read register = .ok value) : P value := by
  unfold Registers.read at hread
  split at hread
  · rename_i found hfound
    cases hread
    exact h.slots _ (List.mem_of_getElem? hfound)
  · cases hread
  · cases hread

theorem Holds.readParameter (h : registers.Holds P) {parameter register : Nat}
    (hread : registers.readParameter parameter = .ok (register, value)) : P value := by
  unfold Registers.readParameter at hread
  cases hstart : registers.parameterStart parameter with
  | error fault => rw [hstart] at hread; cases hread
  | ok start =>
    cases hfound : registers.read start with
    | error fault => simp only [hstart, Bind.bind, Except.bind, hfound] at hread; cases hread
    | ok found =>
      simp only [hstart, Bind.bind, Except.bind, hfound] at hread
      cases hread
      exact h.read hfound

theorem Holds.assign (h : registers.Holds P) (hvalue : P value) {register : Nat}
    {registers' : Registers} (hassign : registers.assign register value = .ok registers') :
    registers'.Holds P := by
  unfold Registers.assign at hassign
  split at hassign
  · cases hassign
    refine ⟨?_, h.returnValue, h.invokeResult⟩
    intro other hother
    rcases List.mem_or_eq_of_mem_set hother with hold | hnew
    · exact h.slots other hold
    · cases hnew
      exact hvalue
  · cases hassign

theorem Holds.assignParameter (h : registers.Holds P) (hvalue : P value) {parameter : Nat}
    {registers' : Registers}
    (hassign : registers.assignParameter parameter value = .ok registers') :
    registers'.Holds P := by
  unfold Registers.assignParameter at hassign
  cases hstart : registers.parameterStart parameter with
  | error fault => rw [hstart] at hassign; cases hassign
  | ok start =>
    rw [hstart] at hassign
    exact h.assign hvalue hassign

/-- The frame of a call holds the arguments of the call. -/
theorem Holds.frameCall (h : registers.Holds P) {frame callee : Frame} {method : String}
    (hcall : frame.call method registers = .ok callee) : callee.registers.Holds P := by
  unfold Frame.call at hcall
  split at hcall
  · cases hcall
    exact h.setTraced _
  · cases hcall

end Registers

/-! ## Lineages -/

namespace Lineage

variable {lineage : Lineage} {field : FieldId} {value : Value}

theorem holds_start (supply : Supply) : (start supply).Holds P :=
  ⟨fun _ _ h => (nomatch h), fun _ h => (nomatch h)⟩

theorem Holds.mark (h : lineage.Holds P) (type : TypeDescriptor) : (lineage.mark type).Holds P := by
  constructor
  · simpa using h.statics
  · simpa using h.history

theorem Holds.record (h : lineage.Holds P) {step : StaticStep}
    (hstep : ∀ value ∈ step.value?, P value) : (lineage.record step).Holds P :=
  ⟨h.statics, List.forall_mem_cons.2 ⟨hstep, h.history⟩⟩

theorem Holds.store (h : lineage.Holds P) (field : FieldId) (hvalue : P value) :
    (lineage.store field value).Holds P := by
  refine ⟨?_, h.history⟩
  intro other found hfound
  by_cases hsame : field = other
  · subst hsame
    rw [static?_store_self] at hfound
    cases hfound
    exact hvalue
  · rw [static?_store_ne lineage value hsame] at hfound
    exact h.statics other found hfound

theorem Holds.seed (h : lineage.Holds P) {definition : ClassDefinition}
    (hstart : ∀ field, P (definition.startValue field)) : (lineage.seed definition).Holds P := by
  unfold Lineage.seed
  induction definition.staticFields generalizing lineage with
  | nil => exact h
  | cons field rest ih => exact ih (h.store field.id (hstart field.id))

theorem Holds.withSupply (h : lineage.Holds P) (supply : Supply) :
    { lineage with supply }.Holds P :=
  ⟨h.statics, h.history⟩

end Lineage

/-! ## Runs -/

namespace Run

variable {α β : Type} {Q : α → Prop} {R : β → Prop}

/-- From a state all of whose values have the property `P`, the run leads to such a state, and `Q`
holds of what it answers. -/
def Carries (P : Value → Prop) (Q : α → Prop) (action : Run α) : Prop :=
  Meets (Execution.Holds P) action fun result e =>
    e.Holds P ∧ ∀ answer, result = .ok answer → Q answer

/-- Nothing is asked of what a run answers. -/
abbrev Anything : α → Prop := fun _ => True

theorem Carries.pure {answer : α} (h : Q answer) : Carries P Q (Pure.pure answer) := by
  intro e he
  refine ⟨he, ?_⟩
  rintro _ ⟨⟩
  exact h

theorem Carries.throw (failure : Failure) : Carries P Q (MonadExcept.throw failure : Run α) :=
  fun _ he => ⟨he, nofun⟩

theorem Carries.bind {action : Run α} {next : α → Run β} (h : Carries P Q action)
    (hnext : ∀ answer, Q answer → Carries P R (next answer)) : Carries P R (action >>= next) := by
  refine Meets.bind h ?_ ?_
  · intro answer e he
    exact hnext answer (he.2 answer rfl) e he.1
  · intro failure e he
    exact ⟨he.1, nofun⟩

theorem Carries.attempt {action : Run α} (h : Carries P Q action) :
    Carries P (fun result => ∀ answer, result = .ok answer → Q answer) (attempt action) := by
  intro e he
  obtain ⟨hholds, hanswer⟩ := h e he
  refine ⟨hholds, ?_⟩
  rintro _ ⟨⟩
  exact hanswer

theorem Carries.ofExcept {result : Except Fault α} (h : ∀ answer, result = .ok answer → Q answer) :
    Carries P Q (ofExcept result) := by
  cases result with
  | ok answer => exact .pure (h answer rfl)
  | error fault => exact .throw _

theorem Carries.ite {condition : Prop} [Decidable condition] {action other : Run α}
    (h : Carries P Q action) (hother : Carries P Q other) :
    Carries P Q (if condition then action else other) := by
  split
  · exact h
  · exact hother

/-- A step that answers with a part of the state, or with nothing. -/
theorem Carries.of_step {action : Run α} {answer : Execution → α} {after : Execution → Execution}
    (haction : ∀ e, action e = (.ok (answer e), after e))
    (h : ∀ e, e.Holds P → Q (answer e) ∧ (after e).Holds P) : Carries P Q action := by
  intro e he
  obtain ⟨hanswer, hafter⟩ := h e he
  rw [haction]
  refine ⟨hafter, ?_⟩
  rintro _ ⟨⟩
  exact hanswer

theorem Carries.frame : Carries P (·.registers.Holds P) frame :=
  .of_step (fun _ => rfl) fun _ he => ⟨he.registers, he⟩

theorem Carries.registers : Carries P (Registers.Holds P) registers :=
  .of_step (fun _ => rfl) fun _ he => ⟨he.registers, he⟩

theorem Carries.lineage : Carries P (Lineage.Holds P) lineage :=
  .of_step (fun _ => rfl) fun _ he => ⟨he.lineage, he⟩

theorem Carries.report (event : Event) : Carries P Anything (report event) :=
  .of_step (fun _ => rfl) fun _ he => ⟨trivial, he.registers, he.lineage⟩

theorem Carries.note (text : String) : Carries P Anything (note text) :=
  .of_step (fun _ => rfl) fun _ he => ⟨trivial, he.registers, he.lineage⟩

theorem Carries.setRegisters {registers : Registers} (h : registers.Holds P) :
    Carries P Anything (setRegisters registers) :=
  .of_step (fun _ => rfl) fun _ he => ⟨trivial, h, he.lineage⟩

theorem Carries.modifyLineage {f : Lineage → Lineage}
    (h : ∀ lineage, lineage.Holds P → (f lineage).Holds P) :
    Carries P Anything (modifyLineage f) :=
  .of_step (fun _ => rfl) fun _ he => ⟨trivial, he.registers, h _ he.lineage⟩

theorem Carries.record {step : StaticStep} (h : ∀ value ∈ step.value?, P value) :
    Carries P Anything (record step) :=
  .modifyLineage fun _ hlineage => hlineage.record h

theorem Carries.mark (type : TypeDescriptor) {step : StaticStep}
    (h : ∀ value ∈ step.value?, P value) : Carries P Anything (mark type step) := by
  refine .bind .lineage fun _ _ => .ite (.pure trivial) ?_
  refine .bind (.modifyLineage fun _ hlineage => ?_) fun _ _ => .pure trivial
  exact (hlineage.mark type).record h

theorem Carries.reportTraced (event : Event) : Carries P Anything (reportTraced event) :=
  .bind .registers fun _ _ => .ite (.report event) (.pure trivial)

theorem Carries.readParameter (parameter : Nat) : Carries P P (readParameter parameter) := by
  refine .bind .registers fun registers hregisters => ?_
  refine .bind (Q := fun read => P read.2) (.ofExcept ?_) fun read hread => ?_
  · rintro ⟨register, value⟩ hread
    exact hregisters.readParameter hread
  · exact .bind (.reportTraced _) fun _ _ => .pure hread

theorem Carries.assignReturn {value : Value} (h : P value) :
    Carries P Anything (assignReturn value) := by
  refine .bind (.reportTraced _) fun _ _ => .bind .registers fun registers hregisters => ?_
  exact .setRegisters (hregisters.setReturn (holds_of_mem_some h))

theorem Carries.assignInvokeResult {value : Value} (h : P value) :
    Carries P Anything (assignInvokeResult value) := by
  refine .bind (.reportTraced _) fun _ _ => .bind .registers fun registers hregisters => ?_
  exact .setRegisters (hregisters.setInvokeResult (holds_of_mem_some h))

theorem Carries.clearInvokeResult : Carries P Anything clearInvokeResult :=
  .bind .registers fun _ hregisters => .setRegisters (hregisters.setInvokeResult nofun)

theorem Carries.takeReturn : Carries P (fun result => ∀ value ∈ result, P value) takeReturn := by
  refine .bind .registers fun registers hregisters => ?_
  exact .bind (.setRegisters (hregisters.setReturn nofun)) fun _ _ => .pure hregisters.returnValue

theorem Carries.takeInvokeResult :
    Carries P (fun result => ∀ value ∈ result, P value) takeInvokeResult := by
  refine .bind .registers fun registers hregisters => ?_
  exact .bind (.setRegisters (hregisters.setInvokeResult nofun)) fun _ _ =>
    .pure hregisters.invokeResult

theorem Carries.call {arguments : Registers} (method : String) (h : arguments.Holds P) :
    Carries P (·.registers.Holds P) (call method arguments) := by
  refine .bind .frame fun frame _ => .bind (Q := (·.registers.Holds P)) (.ofExcept ?_) ?_
  · exact fun _ hcallee => h.frameCall hcallee
  · exact fun _ hcallee => .bind (.report _) fun _ _ => .pure hcallee

theorem Carries.inFrame {action : Run α} {callee : Frame} (hcallee : callee.registers.Holds P)
    (h : Carries P Q action) :
    Carries P (fun out => Q out.1 ∧ out.2.registers.Holds P) (inFrame callee action) := by
  intro e he
  obtain ⟨hholds, hanswer⟩ := h { e with frame := callee } ⟨hcallee, he.lineage⟩
  refine ⟨⟨he.registers, hholds.lineage⟩, ?_⟩
  rintro ⟨answer, frame⟩ hout
  change Except.map _ (action { e with frame := callee }).1 = _ at hout
  cases hresult : (action { e with frame := callee }).1 with
  | error failure => rw [hresult] at hout; cases hout
  | ok found =>
    rw [hresult] at hout
    cases hout
    exact ⟨hanswer answer hresult, hholds.registers⟩

theorem Carries.join {callee : Frame} (h : callee.registers.Holds P) :
    Carries P Anything (join callee) := by
  refine .bind (.report _) fun _ _ => ?_
  cases hresult : callee.registers.returnValue with
  | some value => exact .assignInvokeResult (h.returnValue value hresult)
  | none => exact .clearInvokeResult

theorem Carries.returnUnknown (hclosed : Value.Closed P) (type : TypeDescriptor) :
    Carries P Anything (returnUnknown type) :=
  .assignReturn (hclosed.unknown type)

theorem Carries.returnAs (hclosed : Value.Closed P) (type : TypeDescriptor) {value : Value}
    (h : P value) : Carries P Anything (returnAs type value) :=
  .bind (.ofExcept fun _ hform => hclosed.returned h hform) fun _ hform => .assignReturn hform

end Run

/-! ## Scripts -/

/-- The script asks for nothing that is not `allowed` as long as the answers are as `promised`. -/
def Script.Respects {ρ : Type} {Answer : ρ → Type} {α : Type} (allowed : ρ → Prop)
    (promised : (request : ρ) → Answer request → Prop) : Script ρ Answer α → Prop
  | .done _ | .fail _ => True
  | .ask request next => allowed request ∧
    ∀ result, (∀ answer, result = .ok answer → promised request answer) →
      (next result).Respects allowed promised

theorem Run.Carries.script {ρ : Type} {Answer : ρ → Type} {α : Type} {allowed : ρ → Prop}
    {promised : (request : ρ) → Answer request → Prop}
    {serve : (request : ρ) → Run (Answer request)}
    (hserve : ∀ request, allowed request → Carries P (promised request) (serve request))
    {script : Script ρ Answer α} (h : script.Respects allowed promised) :
    Carries P Anything (script.run serve) := by
  induction script with
  | done answer => exact .pure trivial
  | fail failure => exact .throw failure
  | ask request next ih =>
    obtain ⟨hallowed, hnext⟩ := h
    refine .bind (.attempt (hserve request hallowed)) ?_
    intro result hresult
    exact ih result (hnext result hresult)

end Dalvik
