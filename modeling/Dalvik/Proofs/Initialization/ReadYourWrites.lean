import Dalvik.Proofs.Initialization.Effects
import Dalvik.Proofs.Operations

/-!
# Reads see the last write

What a static field holds can be read off the history: what was assigned to it or given to it last.
A class gets its values once, so from then on every read sees the last assignment since, whatever
else was initialized, read or attempted in between. That the history is a record of what was
answered, an access that succeeds being told last and one that fails not at all, holds of every
request, whoever makes it.
-/

namespace Dalvik

open History Run

namespace StaticFields

variable {statics : StaticFields} {lineage later : Lineage} {field : FieldId}
  {definition : ClassDefinition}

/-- Only the class that declares a field gives it the value that it starts with. -/
theorem not_mem_staticFields {type : TypeDescriptor}
    (hfind : statics.program.find? type = some definition) (h : type ≠ field.owner) :
    field ∉ definition.staticFields.map (·.id) := by
  intro hm
  obtain ⟨declared, hdeclared, rfl⟩ := List.mem_map.1 hm
  refine h ?_
  rw [← Program.name_of_find? hfind]
  exact (ClassDefinition.owner_of_mem_fields (List.mem_of_mem_filter hdeclared)).symm

theorem Step.static?_eq_held (hfind : statics.program.find? field.owner = some definition)
    (hfield : field ∈ definition.staticFields.map (·.id)) (hs : statics.Step lineage later)
    (h : lineage.static? field = held (definition.startValue field) field lineage.history) :
    later.static? field = held (definition.startValue field) field later.history := by
  cases hs with
  | @seed type other hother htop hlife hparent =>
    rw [Lineage.static?_record, Lineage.static?_seed, Lineage.history_record,
      Lineage.history_seed, held]
    by_cases heq : type = field.owner
    · subst heq
      obtain rfl : definition = other := Option.some.inj (hfind.symm.trans hother)
      simp [hfield]
    · simp [heq, not_mem_staticFields hother heq, h]
  | @write other declared value =>
    by_cases heq : other = field
    · subst heq
      simp [held]
    · simp [held, heq, Lineage.static?_store_ne, h]
  | supply => exact h
  | _ => simpa [held] using h

/-- A static field holds what was assigned to it or given to it last. -/
theorem Reachable.static?_eq_held (h : statics.Reachable lineage)
    (hfind : statics.program.find? field.owner = some definition)
    (hfield : field ∈ definition.staticFields.map (·.id)) :
    lineage.static? field = held (definition.startValue field) field lineage.history :=
  h.induct (fun _ => rfl) fun _ _ _ hi hs => hs.static?_eq_held hfind hfield hi

/-- Once its class was seeded, a static field holds what was assigned to it last since then, and
what it starts with if nothing was. -/
theorem Reachable.static?_of_seeded (h : statics.Reachable lineage)
    (hfind : statics.program.find? field.owner = some definition)
    (hfield : field ∈ definition.staticFields.map (·.id)) {since earlier : List StaticStep}
    (hh : lineage.history = since ++ .seeded field.owner :: earlier) :
    lineage.static? field = some ((lastWrite field since).getD (definition.startValue field)) := by
  rw [h.static?_eq_held hfind hfield, hh]
  exact held_of_seeded (h.coherent.not_mem_of_cut rfl hh).1

theorem Step.value_of_read {value : Value} (hs : statics.Step lineage later)
    (h : later.history = .read field value :: lineage.history) :
    value = (lineage.static? field).getD (.default field.type) := by
  cases hs with
  | read hdeclared hmarked hopen =>
    obtain ⟨rfl, rfl⟩ := StaticStep.read.inj (List.cons.inj h).1
    rfl
  | _ => simp at h

/-- The class has its values when its initializer starts, and when its initialization succeeds. -/
theorem Step.seeded_of_started {type : TypeDescriptor} {step : StaticStep}
    (hs : statics.Step lineage later) (h : later.history = step :: lineage.history)
    (hstep : step = .started type ∨ step = .ended type true) : .seeded type ∈ lineage.history := by
  rcases hstep with rfl | rfl
  · cases hs with
    | start hcode htop hlife =>
      obtain rfl := StaticStep.started.inj (List.cons.inj h).1
      exact mem_of_life_eq hlife (by simp)
    | _ => simp at h
  · cases hs with
    | finish hcode htop hlife =>
      obtain ⟨rfl, -⟩ := StaticStep.ended.inj (List.cons.inj h).1
      exact mem_of_life_eq hlife (by simp)
    | stop succeeded htop hlife =>
      obtain ⟨rfl, -⟩ := StaticStep.ended.inj (List.cons.inj h).1
      exact mem_of_life_eq hlife (by simp)
    | _ => simp at h

end StaticFields

/-! ## Answers and the history -/

namespace StaticRequest

/-- The class that the request is about, which may have to be initialized. -/
def subject? : StaticRequest → Option TypeDescriptor
  | .read field | .write field _ => some field.owner
  | .initializeOnce type => some type
  | _ => none

end StaticRequest

namespace StaticFields

variable {statics : StaticFields} {nesting : Nat} {request : StaticRequest} {e : Execution}

/-- When the request has been answered, what it was told is the latest thing in the history. Before
that, nothing was added to the history but what the attempt to initialize its class told. -/
def Tells (statics : StaticFields) (nesting : Nat) (request : StaticRequest) (e : Execution) :
    Prop :=
  ∃ within,
    (statics.serveWith (statics.initializeWithin nesting) request e).2.lineage.history =
      request.told (statics.serveWith (statics.initializeWithin nesting) request e).1 ++
        (within ++ e.lineage.history) ∧
    (within = [] ∨ ∃ type, request.subject? = some type ∧
      (statics.initializeWithin nesting type e).2.lineage.history = within ++ e.lineage.history)

theorem history_initializeWithin (statics : StaticFields) (nesting : Nat) (type : TypeDescriptor)
    (e : Execution) :
    ∃ within, (statics.initializeWithin nesting type e).2.lineage.history =
      within ++ e.lineage.history := by
  obtain ⟨within, h⟩ := initializeWithin_of (compositional_goesOn e.lineage.history)
    statics.initializersAsk_true nesting type e List.suffix_rfl
  exact ⟨within, h.symm⟩

theorem told_error (request : StaticRequest) (failure : Failure) :
    request.told (.error failure) = [] := by
  cases request <;> rfl

theorem tells_access {field : FieldId} (statics : StaticFields) (nesting : Nat)
    (hfield : request.field? = some field) (hsubject : request.subject? = some field.owner)
    (e : Execution) : statics.Tells nesting request e := by
  rcases serveWith_eq statics hfield with ⟨fault, -, hserve⟩ | ⟨rest, hrest, hserve⟩
  · refine ⟨[], ?_, .inl rfl⟩
    rw [hserve, told_error]
    rfl
  · obtain ⟨within, hwithin⟩ := history_initializeWithin statics nesting field.owner e
    refine ⟨within, ?_, .inr ⟨field.owner, hsubject, hwithin⟩⟩
    rw [← hwithin, hserve, Run.bind_apply]
    rcases statics.initializeWithin nesting field.owner e with ⟨failure | prepared, later⟩
    · rw [told_error]
      rfl
    · obtain ⟨answer, hanswer, hhistory⟩ := hrest later
      rw [hanswer]
      exact hhistory

/-- The request was answered without a change of the history. -/
theorem Tells.of_quiet
    (htold : request.told (statics.serveWith (statics.initializeWithin nesting) request e).1 = [])
    (h : Keeps (· = e.lineage) (statics.serveWith (statics.initializeWithin nesting) request)) :
    statics.Tells nesting request e := by
  refine ⟨[], ?_, .inl rfl⟩
  rw [htold, h e rfl]
  rfl

/-- The history is a record of the answers: whoever asks for what, and however many initializations
are under way. -/
theorem tells (statics : StaticFields) (nesting : Nat) (request : StaticRequest) (e : Execution) :
    statics.Tells nesting request e := by
  cases request with
  | read field => exact tells_access statics nesting rfl rfl e
  | write field value => exact tells_access statics nesting rfl rfl e
  | initializeOnce type =>
    obtain ⟨within, hwithin⟩ := history_initializeWithin statics nesting type e
    exact ⟨within, hwithin, .inr ⟨type, rfl, hwithin⟩⟩
  | isInitialized type => exact .of_quiet rfl (.bind .lineage fun _ => .pure _)
  | depth => exact .of_quiet rfl (.bind .frame fun _ => .pure _)
  | parameter index => exact .of_quiet rfl (.readParameter index)
  | assignReturn value => exact .of_quiet rfl (.assignReturn value)
  | note text => exact .of_quiet rfl (.note text)
  | reserve count => exact ⟨[], rfl, .inl rfl⟩

/-- An initialization that succeeds is told last. -/
theorem latest_of_initialized {type : TypeDescriptor}
    (h : (statics.initializeWithin nesting type e).1 = .ok true) :
    (statics.initializeWithin nesting type e).2.lineage.history.head? =
      some (.ended type true) := by
  obtain ⟨-, -, hlatest⟩ := initializeWithin_ended (Prod.ext h rfl) nofun
  exact hlatest

end StaticFields

namespace World

open StaticFields

/-! ## What contexts ask for -/

/-- The action by which a context makes a request, and the reply to it. -/
inductive Makes : Action → (request : StaticRequest) → (request.Answer → Reply) → Prop
  | read (field : FieldId) :
      Makes (.readStatic field) (.read field) fun value => .value (some value)
  | write (field : FieldId) (value : Value) :
      Makes (.writeStatic field value) (.write field value) fun _ => .none
  | initializeOnce (type : TypeDescriptor) :
      Makes (.initializeOnce type) (.initializeOnce type) .truth

variable {machine : Machine} {world : World} {name : String} {context : Context} {lineage : Lineage}
  {action : Action} {request : StaticRequest} {reply : request.Answer → Reply}

theorem act_of_makes (h : Makes action request reply) (e : Execution) :
    machine.act action e =
      ((machine.statics.serve request e).1.map reply, (machine.statics.serve request e).2) := by
  have hact : machine.act action =
      (machine.statics.serve request >>= fun answer => pure (reply answer)) := by
    cases h <;> rfl
  rw [hact, Run.bind_apply]
  rcases machine.statics.serve request e with ⟨failure | answer, later⟩ <;> rfl

/-- What a context asks for is answered like any other request, and told in the lineage of the
context. -/
theorem perform_makes (h : Makes action request reply)
    (hname : world.contexts.get? name = some context)
    (hlineage : world.lineages[context.lineage]? = some lineage) :
    ∃ answer now within,
      (perform machine (.act name action) world).1 = some (answer.map reply) ∧
      (perform machine (.act name action) world).2.lineages[context.lineage]? = some now ∧
      now.history = request.told answer ++ (within ++ lineage.history) := by
  obtain rfl := lineage_eq hlineage
  set e := Execution.ofFrame context.frame (world.lineage context.lineage)
  obtain ⟨within, hhistory, -⟩ := tells machine.statics machine.statics.program.size request e
  have hserved : machine.act action e = _ := act_of_makes h e
  rw [perform_act hname]
  refine ⟨(machine.statics.serve request e).1, (machine.statics.serve request e).2.lineage, within,
    ?_, ?_, hhistory⟩
  · show some (machine.act action e).1 = _
    rw [hserved]
  · show (world.lineages.set context.lineage (machine.act action e).2.lineage)[_]? = _
    rw [hserved, List.getElem?_set_self (List.getElem?_eq_some_iff.1 hlineage).1]

/-- From when the class of a static field was seeded, which is before its initializer starts and
before its initialization succeeds, the field holds what was assigned to it last since then, and
what it starts with if nothing was: every read has answered with that, in a frame or in an
initializer, and the next one in any context does. A fork starts with the values of its origin.

The history in which this is read off is a record of the answers. When a context reads or assigns a
static field or has a class initialized, its lineage goes on with what the access is answered with,
and with nothing if it fails; what is told in between was told by the initialization of the class.
The same holds of every request that is served with however many initializations under way, so of
those that initializers and emulated methods make; and an initialization that answers that it was
done is the latest thing told. -/
theorem reads_see_last_write (machine : Machine) (operations : List Operation) {number : Nat}
    {lineage : Lineage} (h : (after machine operations).lineages[number]? = some lineage)
    {field : FieldId} {declared : DeclaredField} {definition : ClassDefinition}
    (hdeclared : machine.statics.resolve field = .ok declared)
    (hfind : machine.program.find? field.owner = some definition) :
    (∀ later value since earlier,
      lineage.history = later ++ .read field value :: (since ++ .seeded field.owner :: earlier) →
      value = (lastWrite field since).getD (definition.startValue field)) ∧
    (∀ since earlier, lineage.history = since ++ .seeded field.owner :: earlier →
      lineage.static? field = some ((lastWrite field since).getD (definition.startValue field)) ∧
      ∀ name context, (after machine operations).contexts.get? name = some context →
        context.lineage = number →
        (perform machine (.act name (.readStatic field)) (after machine operations)).1 =
          some (.ok (.value (some ((lastWrite field since).getD (definition.startValue field)))))) ∧
    (∀ since step earlier, lineage.history = since ++ step :: earlier →
      step = .started field.owner ∨ step = .ended field.owner true →
      .seeded field.owner ∈ earlier) ∧
    (∀ origin copy context, (after machine operations).contexts.get? origin = some context →
      context.lineage = number →
      ∃ supply, (after machine (operations ++ [.fork origin copy])).lineages[
          (after machine operations).lineages.length]? = some { lineage with supply } ∧
        (after machine (operations ++ [.fork origin copy])).contexts.get? copy =
          some { context with lineage := (after machine operations).lineages.length }) ∧
    (∀ name context action request reply,
      (after machine operations).contexts.get? name = some context → context.lineage = number →
      Makes action request reply →
      ∃ answer now within,
        (perform machine (.act name action) (after machine operations)).1 =
          some (answer.map reply) ∧
        (perform machine (.act name action) (after machine operations)).2.lineages[number]? =
          some now ∧
        now.history = request.told answer ++ (within ++ lineage.history)) ∧
    (∀ nesting request e, machine.statics.Tells nesting request e) ∧
    ∀ nesting type e, (machine.statics.initializeWithin nesting type e).1 = .ok true →
      (machine.statics.initializeWithin nesting type e).2.lineage.history.head? =
        some (.ended type true) := by
  have hreachable := (sound_after machine operations).reachable lineage (List.mem_of_getElem? h)
  have hfield : field ∈ definition.staticFields.map (·.id) := by
    obtain ⟨rfl, other, hother, hmem⟩ := resolve_ok hdeclared
    obtain rfl : definition = other := Option.some.inj (hfind.symm.trans hother)
    exact List.mem_map_of_mem hmem
  refine ⟨?_, ?_, ?_, ?_, ?_, ?_, ?_⟩
  · intro later value since earlier hh
    obtain ⟨before, after, hbefore, hhistory, hstep, hafter⟩ := hreachable.cut hh
    rw [hstep.value_of_read hafter, hbefore.static?_of_seeded hfind hfield hhistory,
      Option.getD_some]
  · intro since earlier hh
    have hstatic := hreachable.static?_of_seeded hfind hfield hh
    refine ⟨hstatic, ?_⟩
    rintro name context hname rfl
    have hseeded : .seeded field.owner ∈ lineage.history := by simp [hh]
    have hmarked := hreachable.coherent.marked_of_mem hseeded rfl
    rw [← lineage_eq h] at hmarked hstatic
    rw [perform_read hname hdeclared hmarked, hstatic, Option.getD_some]
  · intro since step earlier hh hstep
    obtain ⟨before, after, -, rfl, hs, hafter⟩ := hreachable.cut hh
    exact hs.seeded_of_started hafter hstep
  · rintro origin copy context horigin rfl
    exact after_fork machine operations copy horigin h
  · rintro name context action request reply hname rfl hmakes
    exact perform_makes hmakes hname h
  · intro nesting request e
    exact tells machine.statics nesting request e
  · intro nesting type e hdone
    exact latest_of_initialized hdone

/-- A field is read, assigned and read again; its class extends one that assigns it first. The
assignment is told on top of the history, and the second read answers with it. -/
theorem reads_see_last_write_assigned :
    (∃ now within,
      (perform (Sample.machine Sample.baseWrites) (.act "root" (.writeStatic Sample.count (.int 9)))
        (after (Sample.machine Sample.baseWrites) [Sample.readCount])).2.lineages[0]? = some now ∧
      now.history = .wrote Sample.count (.int 9) ::
        (within ++ ((after (Sample.machine Sample.baseWrites) [Sample.readCount]).lineage
          0).history)) ∧
    (perform (Sample.machine Sample.baseWrites) Sample.readCount
      (after (Sample.machine Sample.baseWrites)
        [Sample.readCount, .act "root" (.writeStatic Sample.count (.int 9))])).1 =
      some (.ok (.value (some (.int 9)))) := by
  have hdeclared : (Sample.machine Sample.baseWrites).statics.resolve Sample.count = .ok _ := rfl
  constructor
  · have h : (after (Sample.machine Sample.baseWrites) [Sample.readCount]).lineages[0]? = some _ :=
      rfl
    obtain ⟨answer, now, within, hanswer, hnow, hhistory⟩ :=
      (reads_see_last_write _ _ h hdeclared rfl).2.2.2.2.1 "root" _ _ _ _ rfl rfl
        (.write Sample.count (.int 9))
    refine ⟨now, within, hnow, ?_⟩
    cases answer with
    | ok => exact hhistory
    | error failure => cases hanswer
  · have h : (after (Sample.machine Sample.baseWrites)
        [Sample.readCount, .act "root" (.writeStatic Sample.count (.int 9))]).lineages[0]? =
      some _ := rfl
    have hseeded := (reads_see_last_write _ _ h hdeclared rfl).2.1
      [.wrote Sample.count (.int 9), .read Sample.count (.int 5), .ended Sample.derived true,
        .started Sample.derived] _ rfl
    exact hseeded.2 "root" _ rfl rfl

end World

end Dalvik
