import Dalvik.Proofs.Effects
import Dalvik.Proofs.Initialization.Accesses

/-!
# Effects of initializations

Accesses to static fields, with the initializations that they bring about, from any state of a
lineage. A property of runs that is `Compositional` holds of them as soon as it holds of the parts
that they are put together from. So they leave the frame as it is unless an initializer assigns its
result, they do not look at that result, they take no mark away, and the history goes on. An access
is refused before anything happens, or answered once its class is prepared; an initialization fails
in one way only.
-/

namespace Dalvik

open Run

/-- The request does not write to the registers of the active frame. -/
def StaticRequest.SparesRegisters : StaticRequest → Prop
  | .assignReturn _ => False
  | _ => True

/-- The static field that the request reads or assigns. -/
def StaticRequest.field? : StaticRequest → Option FieldId
  | .read field | .write field _ => some field
  | _ => none

/-- What an answer adds to the history: the access, if it succeeded. -/
def StaticRequest.told : (request : StaticRequest) → Except Failure request.Answer → List StaticStep
  | .read field, .ok value => [.read field value]
  | .write field value, .ok () => [.wrote field value]
  | _, _ => []

/-- The change takes nothing away: what is marked stays so, and the history goes on. -/
structure Lineage.Growing (f : Lineage → Lineage) : Prop where
  marked : ∀ lineage type, lineage.isInitialized type = true → (f lineage).isInitialized type = true
  history : ∀ lineage, lineage.history <:+ (f lineage).history

theorem Lineage.Growing.record (step : StaticStep) : Growing (·.record step) :=
  ⟨fun _ _ hmarked => hmarked, fun _ => List.suffix_cons _ _⟩

theorem Lineage.Growing.write (field : FieldId) (value : Value) :
    Growing fun lineage => (lineage.store field value).record (.wrote field value) :=
  ⟨fun _ _ hmarked => hmarked, fun _ => List.suffix_cons _ _⟩

theorem Lineage.Growing.reserve (count : Nat) : Growing (·.reserve count) :=
  ⟨fun _ _ hmarked => hmarked, fun _ => List.suffix_rfl⟩

theorem Lineage.Growing.seed (definition : ClassDefinition) :
    Growing fun lineage => (lineage.seed definition).record (.seeded definition.name) :=
  ⟨by simp, by simp⟩

/-- The execution in which one more thing has happened to static fields. -/
def Execution.telling (e : Execution) (step : StaticStep) : Execution :=
  { e with lineage := e.lineage.record step }

@[simp] theorem Execution.history_telling (e : Execution) (step : StaticStep) :
    (e.telling step).lineage.history = step :: e.lineage.history := rfl

/-- A property of runs that holds of whatever is put together from runs with that property, and of
the parts of an access, except that of the requests of initializers only those are looked at that
are `allowed`. Changes of the lineage are covered if they take nothing away. An access reports no
traces but those of the registers. -/
structure Compositional (allowed : StaticRequest → Prop) (P : {α : Type} → Run α → Prop) :
    Prop where
  pure {α : Type} (answer : α) : P (Pure.pure answer : Run α)
  throw {α : Type} (failure : Failure) : P (MonadExcept.throw failure : Run α)
  bind {α β : Type} {action : Run α} {next : α → Run β} :
    P action → (∀ answer, P (next answer)) → P (action >>= next)
  attempt {α : Type} {action : Run α} : P action → P (Run.attempt action)
  depth_bind {β : Type} {next : Nat → Run β} :
    (∀ depth, P (next depth)) → P (Run.frame >>= fun frame => next frame.depth)
  lineage : P Run.lineage
  modifyLineage (f : Lineage → Lineage) : Lineage.Growing f → P (Run.modifyLineage f)
  mark (type : TypeDescriptor) (step : StaticStep) : P (Run.mark type step)
  report (event : Event) : event.level ≠ .trace → P (Run.report event)
  note (text : String) : P (Run.note text)
  readParameter (parameter : Nat) : allowed (.parameter parameter) →
    P (Run.readParameter parameter)
  assignReturn (value : Value) : allowed (.assignReturn value) → P (Run.assignReturn value)

namespace Compositional

variable {allowed : StaticRequest → Prop} {P : {α : Type} → Run α → Prop}

theorem ofExcept (h : Compositional allowed P) {α : Type} (result : Except Fault α) :
    P (Run.ofExcept result) := by
  cases result with
  | ok answer => exact h.pure answer
  | error fault => exact h.throw (.fault fault)

theorem record (h : Compositional allowed P) (step : StaticStep) : P (Run.record step) :=
  h.modifyLineage _ (.record step)

theorem script (h : Compositional allowed P) {ρ : Type} {Answer : ρ → Type} {α : Type}
    {script : Script ρ Answer α} {serve : (request : ρ) → Run (Answer request)}
    {permitted : ρ → Prop} (hserve : ∀ request, permitted request → P (serve request))
    (hasks : script.Asks permitted) : P (script.run serve) := by
  induction script with
  | done answer => exact h.pure answer
  | fail failure => exact h.throw failure
  | ask request next ih =>
    obtain ⟨hpermitted, hnext⟩ := hasks
    exact h.bind (h.attempt (hserve request hpermitted)) fun answer => ih answer (hnext answer)

end Compositional

namespace StaticFields

/-- The initializers ask for nothing that is not `allowed`. -/
def InitializersAsk (statics : StaticFields) (allowed : StaticRequest → Prop) : Prop :=
  ∀ initializer, statics.initializer = some initializer →
    ∀ type, (initializer type).Asks allowed

/-- No initializer writes to the registers of the frame that it runs in. -/
def SparesRegisters (statics : StaticFields) : Prop :=
  statics.InitializersAsk StaticRequest.SparesRegisters

theorem initializersAsk_true (statics : StaticFields) : statics.InitializersAsk fun _ => True :=
  fun initializer _ type => (initializer type).asks_true

variable {statics : StaticFields} {type : TypeDescriptor}

/-! ## What holds of the parts holds of an initialization -/

section Composition

variable {allowed : StaticRequest → Prop} {P : {α : Type} → Run α → Prop}
  {prepare : TypeDescriptor → Run Bool}

theorem readWith_of (h : Compositional allowed P) (hprepare : ∀ type, P (prepare type))
    (field : FieldId) : P (statics.readWith prepare field) :=
  h.bind (h.ofExcept _) fun _ => h.bind (hprepare _) fun _ => h.bind h.lineage fun _ =>
    h.bind (h.record _) fun _ => h.pure _

theorem serveWith_of (h : Compositional allowed P) (hprepare : ∀ type, P (prepare type))
    (request : StaticRequest) (hallowed : allowed request) :
    P (statics.serveWith prepare request) := by
  cases request with
  | read field => exact readWith_of h hprepare field
  | write field value =>
    refine h.bind (h.ofExcept _) fun _ => h.bind (h.ofExcept _) fun _ =>
      h.bind (hprepare _) fun _ => h.modifyLineage _ (.write field value)
  | initializeOnce type => exact hprepare type
  | isInitialized type => exact h.bind h.lineage fun _ => h.pure _
  | depth => exact h.depth_bind fun _ => h.pure _
  | parameter index => exact h.readParameter index hallowed
  | assignReturn value => exact h.assignReturn value hallowed
  | note text => exact h.note text
  | reserve count =>
    exact h.bind h.lineage fun _ => h.bind (h.modifyLineage _ (.reserve count)) fun _ => h.pure _

theorem initializeMarked_of (h : Compositional allowed P) (hasks : statics.InitializersAsk allowed)
    (hprepare : ∀ type, P (prepare type)) (definition : ClassDefinition) :
    P (statics.initializeMarked prepare definition) := by
  refine h.bind ?_ fun _ => h.bind ?_ fun _ => ?_
  · cases definition.parent with
    | none => exact h.pure ()
    | some parent => exact h.bind (hprepare parent) fun _ => h.pure ()
  · exact h.depth_bind fun _ => h.bind (h.report _ (by nofun)) fun _ =>
      h.modifyLineage _ (.seed definition)
  · unfold runInitializer
    cases hcode : statics.initializer with
    | none => exact h.pure ()
    | some initializer =>
      have hbody : P ((initializer definition.name).run (statics.serveWith prepare)) :=
        h.script (serveWith_of h hprepare) (hasks initializer hcode definition.name)
      refine h.bind (h.record _) fun _ => h.bind (h.attempt hbody) fun result => ?_
      cases result with
      | ok => exact h.pure ()
      | error failure => exact h.bind (h.report _ (by nofun)) fun _ => h.throw _

theorem initializeWithin_of (h : Compositional allowed P) (hasks : statics.InitializersAsk allowed)
    (nesting : Nat) (type : TypeDescriptor) : P (statics.initializeWithin nesting type) := by
  induction nesting generalizing type with
  | zero => exact h.pure false
  | succ nesting ih =>
    unfold initializeWithin
    cases statics.program.find? type with
    | none => exact h.pure false
    | some definition =>
      refine h.bind (h.mark _ _) fun marked => ?_
      cases marked with
      | false => exact h.pure false
      | true =>
        refine h.bind (h.attempt (initializeMarked_of h hasks ih definition)) fun result =>
          h.bind (h.record _) fun _ => ?_
        cases result with
        | ok => exact h.pure true
        | error failure => exact h.throw failure

end Composition

/-! ## The properties -/

theorem compositional_leavesFrame :
    Compositional StaticRequest.SparesRegisters fun action => LeavesFrame action where
  pure := .pure
  throw := .throw
  bind := .bind
  attempt := .attempt
  depth_bind h := .bind .frame fun _ => h _
  lineage := .lineage
  modifyLineage f _ := .modifyLineage f
  mark := .mark
  report event _ := .report event
  note := .note
  readParameter parameter _ := .readParameter parameter
  assignReturn _ h := h.elim

theorem compositional_blind : Compositional (fun _ => True) fun action => Blind action where
  pure := .pure
  throw := .throw
  bind := .bind
  attempt := .attempt
  depth_bind := .depth_bind
  lineage := .lineage
  modifyLineage f _ := .modifyLineage f
  mark := .mark
  report event _ := .report event
  note := .note
  readParameter parameter _ := .readParameter parameter
  assignReturn value _ := .assignReturn value

/-- Initialization of `type` has begun. -/
def Marked (type : TypeDescriptor) (lineage : Lineage) : Prop :=
  lineage.isInitialized type = true

theorem keeps_marked_mark (other : TypeDescriptor) (step : StaticStep) :
    Keeps (Marked type) (mark other step) := by
  intro e h
  rw [mark_apply]
  split
  · exact h
  · simp only [Marked, Lineage.isInitialized_record, Lineage.isInitialized_mark] at h ⊢
    simp [h]

theorem compositional_marked (type : TypeDescriptor) :
    Compositional (fun _ => True) fun action => Keeps (Marked type) action where
  pure := .pure
  throw := .throw
  bind := .bind
  attempt := .attempt
  depth_bind h := .bind .frame fun _ => h _
  lineage := .lineage
  modifyLineage _ hgrows := fun e h => hgrows.marked e.lineage type h
  mark := keeps_marked_mark
  report event _ := .report event
  note := .note
  readParameter parameter _ := .readParameter parameter
  assignReturn value _ := .assignReturn value

theorem compositional_goesOn (earlier : List StaticStep) :
    Compositional (fun _ => True) fun action => Keeps (earlier <:+ ·.history) action where
  pure := .pure
  throw := .throw
  bind := .bind
  attempt := .attempt
  depth_bind h := .bind .frame fun _ => h _
  lineage := .lineage
  modifyLineage _ hgrows := fun e h => h.trans (hgrows.history e.lineage)
  mark type step := by
    intro e h
    rw [mark_apply]
    split
    · exact h
    · exact h.trans (by simp)
  report event _ := .report event
  note := .note
  readParameter parameter _ := .readParameter parameter
  assignReturn value _ := .assignReturn value

/-! ## Failures -/

theorem failsWith_initializeMarked {prepare : TypeDescriptor → Run Bool}
    (hprepare : ∀ type, FailsWith IsInitializerFailure (prepare type))
    (definition : ClassDefinition) :
    FailsWith IsInitializerFailure (statics.initializeMarked prepare definition) := by
  refine .bind ?_ fun _ => .bind ?_ fun _ => ?_
  · cases definition.parent with
    | none => exact .pure ()
    | some parent => exact .bind (hprepare parent) fun _ => .pure ()
  · exact .of_ok fun _ => ⟨(), rfl⟩
  · unfold runInitializer
    cases statics.initializer with
    | none => exact .pure ()
    | some initializer =>
      -- Whatever failure the code of the initializer ends with, it is wrapped.
      have hany : FailsWith (fun _ => True) ((initializer definition.name).run
          (statics.serveWith prepare)) := fun _ _ _ => trivial
      refine .bind (.of_ok fun _ => ⟨(), rfl⟩) fun _ => .attempt_bind hany fun result _ => ?_
      cases result with
      | ok => exact .pure ()
      | error failure => exact .bind (.of_ok fun _ => ⟨(), rfl⟩) fun _ => .throw ⟨_, _, rfl⟩

theorem failsWith_initializeWithin (statics : StaticFields) (nesting : Nat)
    (type : TypeDescriptor) :
    FailsWith IsInitializerFailure (statics.initializeWithin nesting type) := by
  induction nesting generalizing type with
  | zero => exact .pure false
  | succ nesting ih =>
    unfold initializeWithin
    cases statics.program.find? type with
    | none => exact .pure false
    | some definition =>
      have hmark : FailsWith IsInitializerFailure (mark type (.began type)) := by
        refine .of_ok fun e => ?_
        rw [mark_apply]
        split <;> exact ⟨_, rfl⟩
      refine .bind hmark fun marked => ?_
      cases marked with
      | false => exact .pure false
      | true =>
        refine .attempt_bind (failsWith_initializeMarked ih definition) fun result hresult =>
          .bind (.of_ok fun _ => ⟨(), rfl⟩) fun _ => ?_
        cases result with
        | ok => exact .pure true
        | error failure => exact .throw (hresult failure rfl)

theorem resolve_error {field : FieldId} {fault : Fault}
    (h : statics.resolve field = .error fault) : fault = .fieldNotFound field := by
  unfold resolve at h
  split at h
  · split at h
    · cases h
    · exact (Except.error.inj h).symm
  · exact (Except.error.inj h).symm

/-! ## Accesses -/

/-- An access is refused if there is no such field, or if the value that is to be assigned does not
fit. -/
inductive Refused (statics : StaticFields) : StaticRequest → Fault → Prop where
  | notFound {request : StaticRequest} {field : FieldId} (hfield : request.field? = some field)
      (h : statics.resolve field = .error (.fieldNotFound field)) :
      Refused statics request (.fieldNotFound field)
  | mismatch {field : FieldId} {value : Value} {payload : Payload}
      (hpayload : value.payload? = some payload) (h : payload.fits field.type = false) :
      Refused statics (.write field value) (.typeMismatch field.type payload.kind)

/-- What is left to do of a request when its class is prepared: whatever the state is, it is
answered, and the answer is told. -/
def Completes (request : StaticRequest) (rest : Run request.Answer) : Prop :=
  ∀ e, ∃ answer, (rest e).1 = .ok answer ∧
    (rest e).2.lineage.history = request.told (.ok answer) ++ e.lineage.history

section Access

variable {request : StaticRequest} {field : FieldId}

theorem refused_of_resolve {fault : Fault} (hfield : request.field? = some field)
    (h : statics.resolve field = .error fault) : statics.Refused request fault := by
  obtain rfl := resolve_error h
  exact .notFound hfield h

theorem refused_of_checkWrite {value : Value} {fault : Fault}
    (h : checkWrite field value = .error fault) : statics.Refused (.write field value) fault := by
  unfold checkWrite at h
  cases hpayload : value.payload? with
  | none => simp [hpayload] at h
  | some payload =>
    rw [hpayload] at h
    cases hfits : payload.fits field.type with
    | true => simp [hfits] at h
    | false =>
      obtain rfl : Fault.typeMismatch field.type payload.kind = fault := by simpa [hfits] using h
      exact .mismatch hpayload hfits

/-- An access is refused before anything happens, or completed once its class is prepared. -/
theorem serveWith_eq (statics : StaticFields) (hfield : request.field? = some field) :
    (∃ fault, statics.Refused request fault ∧
      ∀ prepare e, statics.serveWith prepare request e = (.error (.fault fault), e)) ∨
    ∃ rest, Completes request rest ∧
      ∀ prepare, statics.serveWith prepare request = (prepare field.owner >>= fun _ => rest) := by
  cases request with
  | read other =>
    obtain rfl := Option.some.inj hfield
    simp only [serveWith, readWith]
    cases hresolve : statics.resolve other with
    | error fault => exact .inl ⟨fault, refused_of_resolve hfield hresolve, fun _ _ => rfl⟩
    | ok declared =>
      obtain ⟨rfl, -⟩ := resolve_ok hresolve
      exact .inr ⟨_, fun _ => ⟨_, rfl, rfl⟩, fun _ => rfl⟩
  | write other value =>
    obtain rfl := Option.some.inj hfield
    simp only [serveWith, writeWith]
    cases hresolve : statics.resolve other with
    | error fault => exact .inl ⟨fault, refused_of_resolve hfield hresolve, fun _ _ => rfl⟩
    | ok declared =>
      obtain ⟨rfl, -⟩ := resolve_ok hresolve
      cases hcheck : checkWrite declared.id value with
      | error fault => exact .inl ⟨fault, refused_of_checkWrite hcheck, fun _ _ => rfl⟩
      | ok => exact .inr ⟨_, fun _ => ⟨(), rfl, rfl⟩, fun _ => rfl⟩
  | _ => cases hfield

end Access

/-! ## One initialization -/

section Once

variable {definition : ClassDefinition} {e : Execution}

/-- The execution in which the initialization of a class has just begun. -/
def begun (type : TypeDescriptor) (e : Execution) : Execution :=
  { e with lineage := (e.lineage.mark type).record (.began type) }

theorem attempt_ended_apply (action : Run Unit) (type : TypeDescriptor) (e : Execution) :
    (Run.attempt action >>= fun result => record (.ended type result.isOk) >>= fun _ =>
      conclude (result.map fun _ => true)) e =
      ((action e).1.map fun _ => true,
        (action e).2.telling (.ended type (action e).1.isOk)) := by
  show (record (.ended type (action e).1.isOk) >>= fun _ =>
    conclude ((action e).1.map fun _ => true)) (action e).2 = _
  generalize action e = out
  obtain ⟨failure | answer, later⟩ := out <;> rfl

/-- Initializes a local class that is not marked; answers whether it did. The initializations inside
are left to `prepare`. -/
def initializeWith (statics : StaticFields) (prepare : TypeDescriptor → Run Bool)
    (type : TypeDescriptor) : Run Bool :=
  match statics.program.find? type with
  | none => pure false
  | some definition => do
    if ← Run.mark type (.began type) then
      let result ← Run.attempt (statics.initializeMarked prepare definition)
      Run.record (.ended type result.isOk)
      Run.conclude (result.map fun _ => true)
    else
      return false

/-- A class that is not marked is marked first, and that it ended is the last thing that happens. -/
theorem initializeWith_of_unmarked {prepare : TypeDescriptor → Run Bool}
    (hfind : statics.program.find? type = some definition)
    (hunmarked : e.lineage.isInitialized type = false) :
    statics.initializeWith prepare type e =
      let out := statics.initializeMarked prepare definition (begun type e)
      (out.1.map fun _ => true, out.2.telling (.ended type out.1.isOk)) := by
  rw [initializeWith, hfind]
  show (mark type (.began type) >>= _) e = _
  rw [bind_apply, mark_apply, if_neg (by simp [hunmarked])]
  exact attempt_ended_apply _ type (begun type e)

theorem initializeWithin_of_unmarked {nesting : Nat}
    (hfind : statics.program.find? type = some definition)
    (hunmarked : e.lineage.isInitialized type = false) :
    statics.initializeWithin (nesting + 1) type e =
      let out := statics.initializeMarked (statics.initializeWithin nesting) definition
        (begun type e)
      (out.1.map fun _ => true, out.2.telling (.ended type out.1.isOk)) :=
  initializeWith_of_unmarked hfind hunmarked

/-- An attempt that does anything marks a local class that was not marked before, and that the
initialization ended is the last thing that happens. -/
theorem initializeWithin_ended {nesting : Nat} {answer : Except Failure Bool} {later : Execution}
    (h : statics.initializeWithin nesting type e = (answer, later)) (hran : answer ≠ .ok false) :
    (statics.program.isLocal type = true ∧ e.lineage.isInitialized type = false) ∧
      later.lineage.isInitialized type = true ∧
      later.lineage.history.head? = some (.ended type answer.isOk) := by
  have hnew : statics.program.isLocal type = true ∧ e.lineage.isInitialized type = false := by
    by_contra hidle
    rw [initializeWithin_of_idle fun hlocal => eq_true_of_ne_false fun hunmarked =>
      hidle ⟨hlocal, hunmarked⟩] at h
    exact hran (congrArg Prod.fst h).symm
  refine ⟨hnew, ?_⟩
  obtain ⟨hlocal, hunmarked⟩ := hnew
  obtain ⟨definition, hfind⟩ := Option.isSome_iff_exists.1 hlocal
  cases nesting with
  | zero => exact absurd (congrArg Prod.fst h).symm hran
  | succ nesting =>
    rw [initializeWithin_of_unmarked hfind hunmarked] at h
    have hkeeps : Keeps (Marked type)
        (statics.initializeMarked (statics.initializeWithin nesting) definition) :=
      initializeMarked_of (compositional_marked type) statics.initializersAsk_true
        (initializeWithin_of (compositional_marked type) statics.initializersAsk_true nesting)
        definition
    have hmarked := hkeeps (begun type e) (by simp [Marked, begun])
    obtain ⟨rfl, rfl⟩ := Prod.mk.inj h
    refine ⟨hmarked, ?_⟩
    cases (statics.initializeMarked (statics.initializeWithin nesting) definition
      (begun type e)).1 <;> rfl

end Once

/-! ## From outside of all initializations -/

/-- A local class that was to be initialized is marked, whether that failed or not. -/
theorem marked_of_initializeOnce (hlocal : statics.program.isLocal type = true) (e : Execution) :
    Marked type (statics.initializeOnce type e).2.lineage := by
  cases hmarked : e.lineage.isInitialized type with
  | true =>
    rw [initializeOnce_of_marked hmarked]
    exact hmarked
  | false =>
    obtain ⟨definition, hfind⟩ := Option.isSome_iff_exists.1 hlocal
    -- There is a local class, so there is room for one initialization.
    obtain ⟨nesting, hsize⟩ : ∃ nesting, statics.program.size = nesting + 1 :=
      Nat.exists_eq_add_one.2 (List.length_pos_of_mem (List.mem_of_find?_eq_some hfind))
    have hran : (statics.initializeOnce type e).1 ≠ .ok false := by
      unfold initializeOnce
      rw [hsize, initializeWithin_of_unmarked hfind hmarked]
      dsimp only
      cases (statics.initializeMarked (statics.initializeWithin nesting) definition
        (begun type e)).1 <;> nofun
    exact (initializeWithin_ended rfl hran).2.1

theorem failsWith_initializeOnce (statics : StaticFields) (type : TypeDescriptor) :
    FailsWith IsInitializerFailure (statics.initializeOnce type) :=
  failsWith_initializeWithin statics _ type

theorem failsWith_read (statics : StaticFields) (field : FieldId) :
    FailsWith (fun failure => IsInitializerFailure failure ∨
      failure = .fault (.fieldNotFound field)) (statics.read field) := by
  refine .bind (.ofExcept fun fault hfault => .inr ?_) fun declared => ?_
  · rw [resolve_error hfault]
  · exact .bind ((failsWith_initializeOnce statics _).mono fun _ => .inl) fun _ =>
      .of_ok fun e => ⟨_, rfl⟩

end StaticFields

end Dalvik
