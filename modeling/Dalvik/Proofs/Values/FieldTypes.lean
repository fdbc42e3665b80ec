import Dalvik.Proofs.Operations

/-!
# Static fields hold values of their types

A static field gets its value in three ways: it is declared with one, it has the default of its
type, or it is assigned. Only an assignment is checked. So if the declared values fit, every value
that a static field holds has a payload that may have the declared type of the field, or is unknown,
and the same goes for every read, also for one that finds nothing stored yet.
-/

namespace Dalvik

open History Run StaticFields

/-- The value is unknown, or its payload may have this type. -/
def Value.Fits (type : TypeDescriptor) (value : Value) : Prop :=
  ∀ payload, value.payload? = some payload → payload.fits type = true

/-- Every value that is declared for a static field fits the type of the field. -/
def ClassDefinition.InitialValuesFit (definition : ClassDefinition) : Prop :=
  ∀ field value, definition.initialValue? field = some value → value.Fits field.type

/-- The values that the local classes declare fit. -/
def Program.InitialValuesFit (program : Program) : Prop :=
  ∀ type definition, program.find? type = some definition → definition.InitialValuesFit

/-- Every value that a static field holds, and every one that was read there, fits its type. -/
structure Lineage.FieldsFit (lineage : Lineage) : Prop where
  statics : ∀ field value, lineage.static? field = some value → value.Fits field.type
  reads : ∀ field value, .read field value ∈ lineage.history → value.Fits field.type

namespace Value

theorem fits_unknown (type declared : TypeDescriptor) : (unknown declared).Fits type :=
  nofun

theorem fits_known {payload : Payload} {type : TypeDescriptor} (h : payload.fits type = true)
    (declared : TypeDescriptor) : (known payload declared).Fits type := by
  rintro _ ⟨⟩
  exact h

/-- The value of a field that was never assigned has the type of the field. -/
theorem fits_default (type : TypeDescriptor) : (default type).Fits type := by
  cases type with
  | void => exact fits_unknown _ _
  | named name => exact fits_known rfl _
  | array component => exact fits_known rfl _
  | primitive kind => cases kind <;> exact fits_known rfl _

end Value

/-! ## What is declared -/

namespace ClassDefinition

variable {definition : ClassDefinition} {type : TypeDescriptor} {field : FieldId} {value : Value}

theorem initialValuesFit_ofName (name : TypeDescriptor) : (ofName name).InitialValuesFit :=
  fun _ _ h => (nomatch h)

theorem InitialValuesFit.withParent (h : definition.InitialValuesFit)
    (parent : Option TypeDescriptor) : (definition.withParent parent).InitialValuesFit :=
  h

/-- A static field may be declared with a value that fits. -/
theorem InitialValuesFit.withStaticField (h : definition.InitialValuesFit) {member : Member}
    (hvalue : value.Fits member.type) :
    (definition.withStaticField member value).InitialValuesFit := by
  intro field found hfound
  simp only [initialValue?, ClassDefinition.withStaticField] at hfound
  by_cases hsame : definition.idOf { member with flags := member.flags ||| .staticFlag } = field
  · rw [hsame, Table.get?_insert_self] at hfound
    cases hfound
    exact hsame ▸ hvalue
  · rw [Table.get?_insert_ne _ hsame] at hfound
    exact h field found hfound

theorem InitialValuesFit.startValue (h : definition.InitialValuesFit) (field : FieldId) :
    (definition.startValue field).Fits field.type := by
  unfold ClassDefinition.startValue
  cases hvalue : definition.initialValue? field with
  | none => exact Value.fits_default _
  | some value => exact h field value hvalue

end ClassDefinition

/-- What may be written fits. -/
theorem StaticFields.fits_of_checkWrite {field : FieldId} {value : Value}
    (h : checkWrite field value = .ok ()) : value.Fits field.type := by
  intro payload hpayload
  unfold checkWrite at h
  rw [hpayload] at h
  by_contra hfits
  simp [hfits] at h

/-! ## One step -/

namespace Lineage

variable {statics : StaticFields} {lineage later : Lineage} {field : FieldId} {value : Value}

theorem fieldsFit_start (supply : Supply) : (start supply).FieldsFit :=
  ⟨fun _ _ h => (nomatch h), fun _ _ h => (nomatch h)⟩

/-- What a read finds fits, whether anything is stored or not. -/
theorem FieldsFit.found (h : lineage.FieldsFit) (field : FieldId) :
    ((lineage.static? field).getD (.default field.type)).Fits field.type := by
  cases hfound : lineage.static? field with
  | none => exact Value.fits_default _
  | some value => exact h.statics field value hfound

/-- A step that is no read and stores nothing. -/
theorem FieldsFit.silent (h : lineage.FieldsFit) (step : StaticStep)
    (hstatics : ∀ field, later.static? field = lineage.static? field)
    (hhistory : later.history = step :: lineage.history)
    (hstep : ∀ field value, step ≠ .read field value) : later.FieldsFit := by
  refine ⟨fun field value hvalue => ?_, fun field value hread => ?_⟩
  · exact h.statics field value (hstatics field ▸ hvalue)
  · rw [hhistory, List.mem_cons] at hread
    rcases hread with hread | hread
    · exact absurd hread.symm (hstep field value)
    · exact h.reads field value hread

theorem FieldsFit.seed (h : lineage.FieldsFit) (hinitial : statics.program.InitialValuesFit)
    {type : TypeDescriptor} {definition : ClassDefinition}
    (hfind : statics.program.find? type = some definition) :
    ((lineage.seed definition).record (.seeded type)).FieldsFit := by
  refine ⟨fun field value hvalue => ?_, fun field value hread => ?_⟩
  · rw [static?_record, static?_seed] at hvalue
    split at hvalue
    · cases hvalue
      exact (hinitial type definition hfind).startValue field
    · exact h.statics field value hvalue
  · simp only [history_record, history_seed, List.mem_cons, reduceCtorEq,
      false_or] at hread
    exact h.reads field value hread

theorem FieldsFit.read (h : lineage.FieldsFit) (hvalue : value.Fits field.type) :
    (lineage.record (.read field value)).FieldsFit := by
  refine ⟨h.statics, fun other found hread => ?_⟩
  rw [history_record, List.mem_cons] at hread
  rcases hread with hread | hread
  · cases hread
    exact hvalue
  · exact h.reads other found hread

theorem FieldsFit.write (h : lineage.FieldsFit) (hvalue : value.Fits field.type) :
    ((lineage.store field value).record (.wrote field value)).FieldsFit := by
  refine ⟨fun other found hfound => ?_, fun other found hread => ?_⟩
  · rw [static?_record] at hfound
    by_cases hsame : field = other
    · subst hsame
      rw [static?_store_self] at hfound
      cases hfound
      exact hvalue
    · rw [static?_store_ne _ _ hsame] at hfound
      exact h.statics other found hfound
  · simp only [history_record, history_store, List.mem_cons, reduceCtorEq,
      false_or] at hread
    exact h.reads other found hread

theorem FieldsFit.step (hinitial : statics.program.InitialValuesFit) (h : lineage.FieldsFit)
    (hs : statics.Step lineage later) : later.FieldsFit := by
  cases hs with
  | @enter type => exact h.silent (.began type) (by simp) (by simp) (by simp)
  | @foreign type => exact h.silent (.foreign type) (by simp) (by simp) (by simp)
  | seed hfind => exact h.seed hinitial hfind
  | @start type => exact h.silent (.started type) (by simp) rfl (by simp)
  | @finish type => exact h.silent (.ended type true) (by simp) rfl (by simp)
  | @stop type succeeded => exact h.silent (.ended type succeeded) (by simp) rfl (by simp)
  | @abandon type => exact h.silent (.ended type false) (by simp) rfl (by simp)
  | read => exact h.read (h.found _)
  | write value hdeclared hfits => exact h.write (fits_of_checkWrite hfits)
  | supply => exact ⟨h.statics, h.reads⟩

end Lineage

/-! ## Every moment of a run -/

namespace StaticFields

variable {statics : StaticFields} {lineage : Lineage} {field : FieldId} {value : Value}

theorem Reachable.fieldsFit (hinitial : statics.program.InitialValuesFit)
    (h : statics.Reachable lineage) : lineage.FieldsFit :=
  h.induct Lineage.fieldsFit_start fun _ _ _ hi hs => hi.step hinitial hs

/-- Wherever code may run, in an initializer or outside of all of them, a read answers with a value
that fits. -/
theorem Reachable.fits_of_read (hinitial : statics.program.InitialValuesFit)
    (h : statics.Reachable lineage) (hopen : Open lineage.history) {nesting : Nat}
    (hroom : Room statics nesting lineage) {e : Execution} (he : e.lineage = lineage)
    (hread : (statics.readWith (statics.initializeWithin nesting) field e).1 = .ok value) :
    value.Fits field.type := by
  obtain ⟨hadvances, hlatest⟩ :=
    readWith_meets (prepares_initializeWithin statics nesting) h hroom hopen field e he
  -- The read is the latest thing in the history that it leaves.
  have hmem := List.mem_of_mem_head? (hlatest value hread)
  exact ((hadvances.reachable h).fieldsFit hinitial).reads field value hmem

end StaticFields

/-- The action answers with the value that it reads. -/
theorem Machine.value_of_readStatic {machine : Machine} {field : FieldId} {value : Value}
    {e : Execution} (h : (machine.act (.readStatic field) e).1 = .ok (.value (some value))) :
    (machine.statics.read field e).1 = .ok value := by
  change ((machine.statics.read field >>= _) e).1 = _ at h
  cases hread : (machine.statics.read field e).1 with
  | error failure =>
    rw [bind_of_error hread] at h
    cases h
  | ok found =>
    rw [bind_of_ok hread] at h
    cases h
    rfl

namespace World

/-- If the declared values of static fields fit their types, then in every world, whatever was done
in it and whatever its initializers do, all values in static fields do, and every value that a read
has answered with or will answer with: in a context of any lineage, and at any moment at which an
initializer may ask, also while its class or one that waits for it is not seeded yet, and after
initializations that failed. -/
theorem reads_fit_declared_types (machine : Machine)
    (hinitial : machine.program.InitialValuesFit) (operations : List Operation) :
    (∀ lineage ∈ (after machine operations).lineages, lineage.FieldsFit) ∧
    (∀ name field value,
      (perform machine (.act name (.readStatic field)) (after machine operations)).1 =
        some (.ok (.value (some value))) →
      value.Fits field.type) ∧
    ∀ moment, machine.statics.Reachable moment → Open moment.history →
      moment.FieldsFit ∧
      ∀ nesting e field value, e.lineage = moment → Room machine.statics nesting moment →
        (machine.statics.serveWith (machine.statics.initializeWithin nesting) (.read field) e).1 =
          .ok value →
        value.Fits field.type := by
  have hsound := sound_after machine operations
  refine ⟨fun lineage hm => (hsound.reachable lineage hm).fieldsFit hinitial, ?_, ?_⟩
  · intro name field value hreply
    cases hname : (after machine operations).contexts.get? name with
    | none =>
      rw [perform_of_absent (List.mem_singleton_self name) hname] at hreply
      cases hreply
    | some context =>
      rw [perform_act hname] at hreply
      obtain ⟨hreachable, hidle⟩ := hsound.number context.lineage
      refine hreachable.fits_of_read hinitial hidle.isOpen (room_size machine.statics _)
        (e := .ofFrame context.frame _) rfl (Machine.value_of_readStatic (Option.some.inj hreply))
  · intro moment hmoment hopen
    refine ⟨hmoment.fieldsFit hinitial, ?_⟩
    intro nesting e field value he hroom hread
    exact hmoment.fits_of_read hinitial hopen hroom he hread

end World

namespace Sample

/-- The initializer of `base` reads `count`, and the others do nothing. -/
def baseReads : ClassInitializer := fun type =>
  if type = base then .ask (StaticRequest.read count) fun _ => .done () else .done ()

theorem initialValuesFit_program : program.InitialValuesFit := by
  intro type definition hfind
  have hbase := ClassDefinition.initialValuesFit_ofName base
  have hderived := ClassDefinition.initialValuesFit_ofName derived
  rcases List.mem_pair.1 (List.mem_of_find?_eq_some hfind) with rfl | rfl
  · exact hbase.withParent none
  · exact (hderived.withParent (some base)).withStaticField (Value.fits_known rfl _)

end Sample

namespace World

/-- An initializer reads a field of a class that waits for it, and that starts with another value:
the answer is the default of its type. -/
theorem reads_fit_declared_types_waiting :
    (Sample.machine Sample.baseReads).program.InitialValuesFit ∧
    StaticStep.read Sample.count (.int 0) ∈
      ((after (Sample.machine Sample.baseReads) [Sample.readCount]).lineage 0).history ∧
    (Value.int 0).Fits Sample.count.type := by
  have hinitial : (Sample.machine Sample.baseReads).program.InitialValuesFit :=
    Sample.initialValuesFit_program
  have hread : StaticStep.read Sample.count (.int 0) ∈
      ((after (Sample.machine Sample.baseReads) [Sample.readCount]).lineage 0).history :=
    List.mem_of_getElem? (i := 5) rfl
  have hfit := (reads_fit_declared_types _ hinitial [Sample.readCount]).1
    ((after (Sample.machine Sample.baseReads) [Sample.readCount]).lineage 0) (.head _)
  exact ⟨hinitial, hread, hfit.reads _ _ hread⟩

end World

end Dalvik
