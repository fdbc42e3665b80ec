import Dalvik.Proofs.Hierarchy
import Dalvik.Proofs.Initialization.Effects
import Dalvik.Proofs.Initialization.Worlds

/-!
# What one initialization does

An initialization goes up from a class to the class that it extends and so on, and marks each class
on the way, until it meets one that is not local, is marked, or extends no class. On the way back
each class gets the values that its static fields start with, and then its initializer runs; the
first failure ends it all. The initializers that are considered here may look at what there is but
change nothing, so that no other class is initialized in between.
-/

namespace Dalvik

open Run History Hierarchy

namespace Hierarchy

variable {parent? : TypeDescriptor → Option TypeDescriptor} {type : TypeDescriptor}
  {types chain rest : List TypeDescriptor}

/-- A chain of types from `types`, each followed by its parent and none of them twice. It ends only
where it cannot go on: the last type has no parent, or one that is not among `types` or stands in
the chain already. -/
structure IsAscent (parent? : TypeDescriptor → Option TypeDescriptor) (types : List TypeDescriptor)
    (type : TypeDescriptor) (chain : List TypeDescriptor) : Prop where
  head : chain.head? = some type
  parents : chain.IsChain fun child parent => parent? child = some parent
  within : ∀ other ∈ chain, other ∈ types
  distinct : chain.Nodup
  cut : ∀ last ∈ chain.getLast?, ∀ parent ∈ parent? last, parent ∉ types ∨ parent ∈ chain

/-- What follows the first type is the chain that begins with its parent and avoids the type. -/
theorem isAscent_cons :
    IsAscent parent? types type (type :: rest) ↔ type ∈ types ∧
      ((rest = [] ∧ ∀ parent ∈ parent? type, parent ∉ others type types) ∨
        ∃ parent, parent? type = some parent ∧
          IsAscent parent? (others type types) parent rest) := by
  cases rest with
  | nil =>
    constructor
    · intro h
      refine ⟨h.within type List.mem_cons_self, .inl ⟨rfl, fun parent hparent ho => ?_⟩⟩
      obtain ⟨hmem, hne⟩ := mem_others.1 ho
      rcases h.cut type rfl parent hparent with hout | hin
      · exact hout hmem
      · exact hne (List.mem_singleton.1 hin)
    · rintro ⟨hmem, ⟨-, hcut⟩ | ⟨parent, -, h⟩⟩
      · refine ⟨rfl, .singleton _, by simpa using hmem, by simp, ?_⟩
        rintro last ⟨⟩ parent hparent
        have hout := hcut parent hparent
        rw [mem_others, not_and_or, not_not] at hout
        simpa using hout
      · cases h.head
  | cons parent more =>
    constructor
    · intro h
      obtain ⟨hparent, hmore⟩ := List.isChain_cons_cons.1 h.parents
      obtain ⟨hnew, hdistinct⟩ := List.nodup_cons.1 h.distinct
      refine ⟨h.within type List.mem_cons_self, .inr ⟨parent, hparent, rfl, hmore, ?_, hdistinct,
        fun last hlast next hnext => ?_⟩⟩
      · exact fun other ho => mem_others.2 ⟨h.within other (List.mem_cons_of_mem _ ho),
          fun heq => hnew (heq ▸ ho)⟩
      · rw [mem_others, not_and_or, not_not]
        have hcut := h.cut last (by simpa using hlast) next hnext
        rw [List.mem_cons] at hcut
        tauto
    · rintro ⟨hmem, ⟨hnil, -⟩ | ⟨_, hparent, h⟩⟩
      · cases hnil
      · obtain rfl := Option.some.inj h.head
        refine ⟨rfl, .cons_cons hparent h.parents, fun other ho => ?_, ?_,
          fun last hlast next hnext => ?_⟩
        · rcases List.mem_cons.1 ho with rfl | ho
          · exact hmem
          · exact (mem_others.1 (h.within other ho)).1
        · exact List.nodup_cons.2 ⟨fun ho => (mem_others.1 (h.within type ho)).2 rfl, h.distinct⟩
        · have hcut := h.cut last (by simpa using hlast) next hnext
          rw [mem_others, not_and_or, not_not] at hcut
          rw [List.mem_cons]
          tauto

theorem IsAscent.mem (h : IsAscent parent? types type chain) : type ∈ types :=
  h.within type (List.mem_of_mem_head? h.head)

/-- There is only one such chain. -/
theorem IsAscent.unique {other : List TypeDescriptor} (h : IsAscent parent? types type chain)
    (h' : IsAscent parent? types type other) : other = chain := by
  induction chain generalizing types type other with
  | nil => cases h.head
  | cons first rest ih =>
    obtain rfl := Option.some.inj h.head
    cases other with
    | nil => cases h'.head
    | cons first' rest' =>
      obtain rfl := Option.some.inj h'.head
      rcases (isAscent_cons.1 h).2 with ⟨rfl, hcut⟩ | ⟨parent, hparent, hrest⟩ <;>
        rcases (isAscent_cons.1 h').2 with ⟨rfl, hcut'⟩ | ⟨parent', hparent', hrest'⟩
      · rfl
      · exact absurd hrest'.mem (hcut parent' hparent')
      · exact absurd hrest.mem (hcut' parent hparent)
      · obtain rfl := Option.some.inj (hparent.symm.trans hparent')
        rw [ih hrest hrest']

end Hierarchy

/-! ## Initializers that change nothing -/

/-- The request changes neither what static fields hold, nor which classes are marked, nor the
active frame. -/
def StaticRequest.OnlyLooks : StaticRequest → Prop
  | .read _ | .write _ _ | .initializeOnce _ | .assignReturn _ => False
  | _ => True

/-- The executions differ at most in what was reported and noted, and in the identities that the
lineage will give out. -/
structure Execution.Rests (e later : Execution) : Prop where
  frame : later.frame = e.frame
  lineage : later.lineage = { e.lineage with supply := later.lineage.supply }

theorem Execution.Rests.refl (e : Execution) : e.Rests e :=
  ⟨rfl, rfl⟩

theorem Execution.Rests.of_eq {e later : Execution} (hframe : later.frame = e.frame)
    (hlineage : later.lineage = e.lineage) : e.Rests later :=
  ⟨hframe, by rw [hlineage]⟩

theorem Execution.Rests.trans {e later last : Execution} (h : e.Rests later)
    (h' : later.Rests last) : e.Rests last :=
  ⟨h'.frame.trans h.frame, h'.lineage.trans (by rw [h.lineage])⟩

namespace StaticFields

variable {statics : StaticFields} {prepare : TypeDescriptor → Run Bool}

/-- Requests that only look are answered alike however classes are initialized, and change nothing.
-/
theorem serveWith_of_onlyLooks (statics : StaticFields) (prepare : TypeDescriptor → Run Bool)
    {request : StaticRequest} (h : request.OnlyLooks) (e : Execution) :
    statics.serveWith prepare request e = statics.serve request e ∧
      e.Rests (statics.serve request e).2 := by
  cases request with
  | read | write | initializeOnce | assignReturn => exact h.elim
  | parameter index =>
    exact ⟨rfl, .of_eq (LeavesFrame.readParameter index e)
      (Keeps.readParameter (I := (· = e.lineage)) index e rfl)⟩
  | isInitialized | depth | note | reserve => exact ⟨rfl, rfl, rfl⟩

theorem run_of_onlyLooks (statics : StaticFields) (prepare : TypeDescriptor → Run Bool)
    {script : Script StaticRequest StaticRequest.Answer Unit}
    (h : script.Asks StaticRequest.OnlyLooks) (e : Execution) :
    script.run (statics.serveWith prepare) e = script.run statics.serve e ∧
      e.Rests (script.run statics.serve e).2 := by
  induction script generalizing e with
  | done => exact ⟨rfl, .refl e⟩
  | fail => exact ⟨rfl, .refl e⟩
  | ask request next ih =>
    obtain ⟨hsame, hrests⟩ := serveWith_of_onlyLooks statics prepare h.1 e
    obtain ⟨hrun, hrest⟩ := ih (statics.serve request e).1 (h.2 _) (statics.serve request e).2
    refine ⟨?_, hrests.trans hrest⟩
    refine Eq.trans ?_ hrun
    show (next (statics.serveWith prepare request e).1).run _
      (statics.serveWith prepare request e).2 = _
    rw [hsame]

/-! ## The way back -/

/-- The static fields of a class hold the values that they start with. -/
def Seeded (statics : StaticFields) (type : TypeDescriptor) (lineage : Lineage) : Prop :=
  ∀ definition, statics.program.find? type = some definition → ∀ field ∈ definition.staticFields,
    lineage.static? field.id = some (definition.startValue field.id)

/-- The classes `waiting` and `ran` have been marked, in this order. The initializers of `ran` have
run one after the other, the first of them last, the one of `type` in the execution `before type`.
Those of `waiting` were to follow. -/
structure Conducted (statics : StaticFields) (initializer : ClassInitializer)
    (waiting ran : List TypeDescriptor) (before : TypeDescriptor → Execution) (e : Execution)
    (result : Except Failure Unit) (later : Execution) : Prop where
  frame : later.frame = e.frame
  initialized : later.lineage.initialized = e.lineage.initialized ++ (waiting ++ ran)
  started : startings later.lineage.history = ran ++ startings e.lineage.history
  kept : ∀ field, field.owner ∉ ran → later.lineage.static? field = e.lineage.static? field
  seeded : ∀ type ∈ ran, statics.Seeded type later.lineage
  ready : ∀ type ∈ ran, statics.Seeded type (before type).lineage
  /-- All classes are marked before the first initializer runs. -/
  entered : ∀ type ∈ ran, (before type).frame = e.frame ∧
    (before type).lineage.initialized = later.lineage.initialized
  /-- The initializer of a class runs in the execution in which it is said to have started. -/
  told : ∀ type ∈ ran, (before type).lineage.history <:+ later.lineage.history ∧
    ∃ earlier, (before type).lineage.history = .started type :: .seeded type :: earlier
  /-- Either all have run and none has failed, or the latest one has failed. -/
  outcome :
    (result = .ok () ∧ waiting = [] ∧
      ∀ type ∈ ran, ((initializer type).run statics.serve (before type)).1 = .ok ()) ∨
    ∃ culprit succeeded failure, ran = culprit :: succeeded ∧
      (∀ type ∈ succeeded, ((initializer type).run statics.serve (before type)).1 = .ok ()) ∧
      ((initializer culprit).run statics.serve (before culprit)).1 = .error failure ∧
      result = .error (.fault (.initializerFailed culprit failure.message))

variable {initializer : ClassInitializer} {waiting ran : List TypeDescriptor}
  {before : TypeDescriptor → Execution} {e later : Execution} {result : Except Failure Unit}
  {type : TypeDescriptor} {definition : ClassDefinition}

theorem Conducted.nothing (statics : StaticFields) (initializer : ClassInitializer)
    (e : Execution) : Conducted statics initializer [] [] (fun _ => e) e (.ok ()) e where
  frame := rfl
  initialized := by simp
  started := rfl
  kept _ _ := rfl
  seeded _ h := absurd h List.not_mem_nil
  ready _ h := absurd h List.not_mem_nil
  entered _ h := absurd h List.not_mem_nil
  told _ h := absurd h List.not_mem_nil
  outcome := .inl ⟨rfl, rfl, fun _ h => absurd h List.not_mem_nil⟩

/-- What an initialization fails with when the initializer of a class does. -/
def wrapped (type : TypeDescriptor) (failure : Failure) : Failure :=
  .fault (.initializerFailed type failure.message)

/-- An initializer that only looks starts in the execution in which this is told, and leaves it as
it is. -/
theorem runInitializer_apply (prepare : TypeDescriptor → Run Bool)
    (hcode : statics.initializer = some initializer)
    (hlooks : (initializer type).Asks StaticRequest.OnlyLooks) (e : Execution) :
    ∃ last, (e.telling (.started type)).Rests last ∧ statics.runInitializer prepare type e =
      (((initializer type).run statics.serve (e.telling (.started type))).1.mapError
        (wrapped type), last) := by
  set ready := e.telling (.started type)
  obtain ⟨hrun, hrests⟩ := run_of_onlyLooks statics prepare hlooks ready
  generalize hout : (initializer type).run statics.serve ready = out at hrun hrests ⊢
  have hstarted (next : Except Failure Unit → Run Unit) :
      (record (.started type) >>= fun _ =>
        Run.attempt ((initializer type).run (statics.serveWith prepare)) >>= next) e =
        next out.1 out.2 := by
    rw [← hrun]
    rfl
  unfold runInitializer
  rw [hcode]
  obtain ⟨failure | answer, later⟩ := out
  · exact ⟨{ later with log := later.log ++ [.initializerFailed type failure] },
      hrests.trans (.of_eq rfl rfl), hstarted _⟩
  · exact ⟨later, hrests, hstarted _⟩

theorem static?_seed_of_mem {lineage : Lineage} {field : DeclaredField}
    (h : field ∈ definition.staticFields) :
    (lineage.seed definition).static? field.id = some (definition.startValue field.id) := by
  rw [Lineage.static?_seed, if_pos (List.mem_map_of_mem h)]

theorem static?_seed_of_owner_ne {lineage : Lineage} {field : FieldId}
    (h : field.owner ≠ definition.name) :
    (lineage.seed definition).static? field = lineage.static? field := by
  rw [Lineage.static?_seed, if_neg]
  intro hm
  obtain ⟨declared, hdeclared, rfl⟩ := List.mem_map.1 hm
  exact h (ClassDefinition.owner_of_mem_fields (List.mem_filter.1 hdeclared).1)

theorem Seeded.of_kept {lineage after : Lineage} (h : statics.Seeded type lineage)
    (hkept : ∀ field, field.owner = type → after.static? field = lineage.static? field) :
    statics.Seeded type after := by
  intro definition hfind field hfield
  rw [hkept field.id, h definition hfind field hfield]
  rw [← Program.name_of_find? hfind]
  exact ClassDefinition.owner_of_mem_fields (List.mem_filter.1 hfield).1

theorem startings_begun (type : TypeDescriptor) (e : Execution) :
    startings (begun type e).lineage.history = startings e.lineage.history := by
  show startings (e.lineage.mark type).history = _
  rw [Lineage.history_mark]

/-- If the initialization of the class that it extends has failed, a class gets nothing. -/
theorem Conducted.abandon {failure : Failure}
    (h : Conducted statics initializer waiting ran before (begun type e) (.error failure) later)
    (hunmarked : e.lineage.isInitialized type = false) :
    Conducted statics initializer (type :: waiting) ran before e (.error failure)
      (later.telling (.ended type false)) where
  frame := h.frame
  initialized := by simpa [begun, Lineage.mark, Execution.telling, hunmarked] using h.initialized
  started := h.started.trans (congrArg (ran ++ ·) (startings_begun type e))
  kept field hfield := (h.kept field hfield).trans (Lineage.static?_mark e.lineage type field)
  seeded := h.seeded
  ready := h.ready
  entered := h.entered
  told other hm := by
    obtain ⟨hsuffix, htold⟩ := h.told other hm
    exact ⟨hsuffix.trans (List.suffix_cons _ _), htold⟩
  outcome := by
    rcases h.outcome with ⟨hok, -⟩ | hfailed
    · cases hok
    · exact .inr hfailed

/-- What is left of an execution in which a class got its values and its initializer, which only
looks, ran. -/
structure Passed (definition : ClassDefinition) (e ready last : Execution) : Prop where
  frame : ready.frame = e.frame
  lineage : ready.lineage = ((e.lineage.seed definition).record (.seeded definition.name)).record
    (.started definition.name)
  rests : ready.Rests last

section Passing

variable {ready last : Execution}

theorem Passed.initialized_ready (h : Passed definition e ready last) :
    ready.lineage.initialized = e.lineage.initialized := by
  rw [h.lineage]
  exact Lineage.initialized_seed e.lineage definition

theorem Passed.initialized (h : Passed definition e ready last) :
    last.lineage.initialized = e.lineage.initialized := by
  rw [h.rests.lineage]
  exact h.initialized_ready

theorem Passed.history_ready (h : Passed definition e ready last) : ready.lineage.history =
    .started definition.name :: .seeded definition.name :: e.lineage.history := by
  rw [h.lineage, Lineage.history_record, Lineage.history_record, Lineage.history_seed]

theorem Passed.history (h : Passed definition e ready last) : last.lineage.history =
    .started definition.name :: .seeded definition.name :: e.lineage.history := by
  rw [h.rests.lineage]
  exact h.history_ready

theorem Passed.static? (h : Passed definition e ready last) (field : FieldId) :
    last.lineage.static? field = ready.lineage.static? field := by
  rw [h.rests.lineage]
  rfl

/-- No fields but those of the class have changed. -/
theorem Passed.static?_of_owner_ne (h : Passed definition e ready last) {field : FieldId}
    (hne : field.owner ≠ definition.name) :
    last.lineage.static? field = e.lineage.static? field := by
  rw [h.static?, h.lineage]
  exact static?_seed_of_owner_ne hne

theorem Passed.seeded (h : Passed definition e ready last)
    (hfind : statics.program.find? type = some definition) :
    statics.Seeded type ready.lineage := by
  intro found hfound field hfield
  obtain rfl := Option.some.inj (hfind.symm.trans hfound)
  rw [h.lineage]
  exact static?_seed_of_mem hfield

/-- A class whose initializer starts in `ready` follows the classes that it is reached from. -/
theorem Conducted.goOn
    (h : Conducted statics initializer [] ran before (begun type e) (.ok ()) later)
    (hpassed : Passed definition later ready last)
    (hfind : statics.program.find? type = some definition)
    (hunmarked : e.lineage.isInitialized type = false) (hnew : type ∉ ran) (succeeded : Bool) :
    Conducted statics initializer [] (type :: ran)
      (fun other => if other = type then ready else before other) e
      (((initializer type).run statics.serve ready).1.mapError (wrapped type))
      (last.telling (.ended type succeeded)) := by
  have hname := Program.name_of_find? hfind
  have hne {other : TypeDescriptor} (hm : other ∈ ran) : other ≠ type := fun heq => hnew (heq ▸ hm)
  have hothers {field : FieldId} (howner : field.owner ≠ type) :
      last.lineage.static? field = later.lineage.static? field :=
    hpassed.static?_of_owner_ne (hname ▸ howner)
  have hhistory : later.lineage.history <:+
      (last.telling (.ended type succeeded)).lineage.history := by
    rw [Execution.history_telling, hpassed.history]
    exact List.suffix_append [_, _, _] later.lineage.history
  constructor
  case frame => exact hpassed.rests.frame.trans (hpassed.frame.trans h.frame)
  case initialized =>
    refine hpassed.initialized.trans ?_
    simpa [begun, Lineage.mark, hunmarked] using h.initialized
  case started =>
    rw [Execution.history_telling, hpassed.history, hname]
    exact congrArg (type :: ·) (h.started.trans (congrArg (ran ++ ·) (startings_begun type e)))
  case kept =>
    intro field hfield
    rw [List.mem_cons, not_or] at hfield
    exact (hothers hfield.1).trans
      ((h.kept field hfield.2).trans (Lineage.static?_mark e.lineage type field))
  case seeded =>
    intro other hm
    rcases List.mem_cons.1 hm with rfl | hm
    · exact (hpassed.seeded hfind).of_kept fun field _ => hpassed.static? field
    · exact (h.seeded other hm).of_kept fun field howner => hothers (howner ▸ hne hm)
  case ready =>
    intro other hm
    rcases List.mem_cons.1 hm with rfl | hm
    · rw [if_pos rfl]
      exact hpassed.seeded hfind
    · rw [if_neg (hne hm)]
      exact h.ready other hm
  case entered =>
    intro other hm
    refine (?_ : _ ∧ _ = last.lineage.initialized)
    rw [hpassed.initialized]
    rcases List.mem_cons.1 hm with rfl | hm
    · rw [if_pos rfl]
      exact ⟨hpassed.frame.trans h.frame, hpassed.initialized_ready⟩
    · rw [if_neg (hne hm)]
      exact h.entered other hm
  case told =>
    intro other hm
    rcases List.mem_cons.1 hm with rfl | hm
    · rw [if_pos rfl, Execution.history_telling, hpassed.history, hpassed.history_ready, hname]
      exact ⟨List.suffix_cons _ _, _, rfl⟩
    · rw [if_neg (hne hm)]
      obtain ⟨hsuffix, htold⟩ := h.told other hm
      exact ⟨hsuffix.trans hhistory, htold⟩
  case outcome =>
    have hsucceeded : ∀ other ∈ ran, ((initializer other).run statics.serve
        (if other = type then ready else before other)).1 = .ok () := by
      intro other hm
      rw [if_neg (hne hm)]
      rcases h.outcome with ⟨-, -, hok⟩ | ⟨_, _, _, _, _, _, herror⟩
      · exact hok other hm
      · cases herror
    cases hrun : ((initializer type).run statics.serve ready).1 with
    | ok =>
      refine .inl ⟨rfl, rfl, fun other hm => ?_⟩
      rcases List.mem_cons.1 hm with rfl | hm
      · rw [if_pos rfl]
        exact hrun
      · exact hsucceeded other hm
    | error failure =>
      refine .inr ⟨type, ran, failure, rfl, hsucceeded, ?_, rfl⟩
      rw [if_pos rfl]
      exact hrun

end Passing

/-! ## The whole way -/

/-- The local classes that are not marked. -/
def unmarked (statics : StaticFields) (lineage : Lineage) : List TypeDescriptor :=
  statics.program.names.filter fun type => !lineage.isInitialized type

theorem mem_unmarked {lineage : Lineage} : type ∈ statics.unmarked lineage ↔
    statics.program.isLocal type = true ∧ lineage.isInitialized type = false := by
  simp [unmarked, Program.isLocal_iff_mem_names]

theorem unmarked_begun (type : TypeDescriptor) (e : Execution) :
    statics.unmarked (begun type e).lineage = others type (statics.unmarked e.lineage) := by
  rw [unmarked, unmarked, others, List.filter_filter]
  refine List.filter_congr fun other _ => ?_
  rw [begun, Lineage.isInitialized_record, Lineage.isInitialized_mark, Bool.not_or, Bool.and_comm,
    ← decide_not]

/-- The run initializes a class that is local and not marked with all that is in order above it, and
leaves any other class alone. -/
structure Ascends (statics : StaticFields) (initializer : ClassInitializer) (action : Run Bool)
    (type : TypeDescriptor) (e : Execution) : Prop where
  idle : type ∉ statics.unmarked e.lineage → action e = (.ok false, e)
  works : type ∈ statics.unmarked e.lineage → ∃ waiting ran before result,
    IsAscent statics.program.parent? (statics.unmarked e.lineage) type (waiting ++ ran) ∧
    Conducted statics initializer waiting ran before e result (action e).2 ∧
    (action e).1 = result.map fun _ => true

/-- What there is above a class that has just been marked. -/
theorem initializeParent_conducts (initializer : ClassInitializer)
    {prepare : TypeDescriptor → Run Bool} {parent? : Option TypeDescriptor}
    (hmem : type ∈ statics.unmarked e.lineage)
    (hparent : statics.program.parent? type = parent?)
    (ih : ∀ parent ∈ parent?, Ascends statics initializer (prepare parent) parent (begun type e)) :
    ∃ waiting ran before,
      IsAscent statics.program.parent? (statics.unmarked e.lineage) type
        (type :: (waiting ++ ran)) ∧
      Conducted statics initializer waiting ran before (begun type e)
        (initializeParent prepare parent? (begun type e)).1
        (initializeParent prepare parent? (begun type e)).2 := by
  simp only [isAscent_cons, hparent, ← unmarked_begun]
  cases parent? with
  | none => exact ⟨[], [], _, ⟨hmem, .inl ⟨rfl, by simp⟩⟩, .nothing statics initializer _⟩
  | some parent =>
    show ∃ waiting ran before, _ ∧ Conducted statics initializer waiting ran before _
      ((prepare parent >>= fun _ => Pure.pure ()) (begun type e)).1
      ((prepare parent >>= fun _ => Pure.pure ()) (begun type e)).2
    have hascends := ih parent rfl
    by_cases hnext : parent ∈ statics.unmarked (begun type e).lineage
    · obtain ⟨waiting, ran, before, result, hchain, hconducted, hresult⟩ := hascends.works hnext
      refine ⟨waiting, ran, before, ⟨hmem, .inr ⟨parent, rfl, hchain⟩⟩, ?_⟩
      cases result with
      | ok =>
        rw [bind_of_ok hresult]
        exact hconducted
      | error failure =>
        rw [bind_of_error hresult]
        exact hconducted
    · rw [bind_of_ok (congrArg Prod.fst (hascends.idle hnext)), hascends.idle hnext]
      refine ⟨[], [], _, ⟨hmem, .inl ⟨rfl, ?_⟩⟩, .nothing statics initializer _⟩
      rintro _ ⟨⟩
      exact hnext

/-- The class itself comes after all that is above it, unless that has failed. -/
theorem initializeMarked_conducts (hcode : statics.initializer = some initializer)
    (hlooks : (initializer type).Asks StaticRequest.OnlyLooks)
    (hfind : statics.program.find? type = some definition)
    (hunmarked : e.lineage.isInitialized type = false) (hnew : type ∉ ran)
    (h : Conducted statics initializer waiting ran before (begun type e)
      (initializeParent prepare definition.parent (begun type e)).1
      (initializeParent prepare definition.parent (begun type e)).2) :
    let out := statics.initializeMarked prepare definition (begun type e)
    ∃ waiting' ran' before', waiting' ++ ran' = type :: (waiting ++ ran) ∧
      Conducted statics initializer waiting' ran' before' e out.1
        (out.2.telling (.ended type out.1.isOk)) := by
  intro out
  cases hresult : (initializeParent prepare definition.parent (begun type e)).1 with
  | error failure =>
    have hout : out = (.error failure, _) := bind_of_error hresult
    rw [hresult] at h
    rw [hout]
    exact ⟨type :: waiting, ran, before, rfl, h.abandon hunmarked⟩
  | ok =>
    set later := (initializeParent prepare definition.parent (begun type e)).2
    rw [hresult] at h
    obtain ⟨last, hrests, hrun⟩ := runInitializer_apply prepare hcode
      (Program.name_of_find? hfind ▸ hlooks) (seedFields definition later).2
    have hout : out = (_, last) := (bind_of_ok hresult).trans hrun
    rw [hout]
    have hpassed : Passed definition later
        ((seedFields definition later).2.telling (.started definition.name)) last :=
      ⟨rfl, rfl, hrests⟩
    obtain rfl : waiting = [] := by
      rcases h.outcome with ⟨-, hnil, -⟩ | ⟨_, _, _, _, _, _, herror⟩
      · exact hnil
      · cases herror
    have hconducted := h.goOn hpassed hfind hunmarked hnew
    rw [← Program.name_of_find? hfind] at hconducted ⊢
    exact ⟨[], definition.name :: ran, _, rfl, hconducted _⟩

theorem initializeWithin_ascends (hcode : statics.initializer = some initializer)
    (hlooks : ∀ type, (initializer type).Asks StaticRequest.OnlyLooks) (nesting : Nat)
    (type : TypeDescriptor) (e : Execution)
    (hroom : (statics.unmarked e.lineage).length ≤ nesting) :
    Ascends statics initializer (statics.initializeWithin nesting type) type e := by
  induction nesting generalizing type e with
  | zero =>
    have hnone : statics.unmarked e.lineage = [] := List.length_eq_zero_iff.1 (Nat.le_zero.1 hroom)
    exact ⟨fun _ => rfl, fun h => absurd h (by simp [hnone])⟩
  | succ nesting ih =>
    refine ⟨fun h => initializeWithin_of_idle fun hlocal => ?_, fun h => ?_⟩
    · exact eq_true_of_ne_false fun hunmarked => h (mem_unmarked.2 ⟨hlocal, hunmarked⟩)
    obtain ⟨hlocal, hunmarked⟩ := mem_unmarked.1 h
    obtain ⟨definition, hfind⟩ := Option.isSome_iff_exists.1 hlocal
    have hparent : statics.program.parent? type = definition.parent := by
      rw [Program.parent?, hfind]
      rfl
    have hfewer := length_others_lt h
    -- Marking the class leaves fewer classes for what is above it.
    obtain ⟨waiting, ran, before, hchain, habove⟩ := initializeParent_conducts
      initializer h hparent fun parent _ =>
        ih parent (begun type e) (by rw [unmarked_begun]; omega)
    have hnew : type ∉ ran := fun hm =>
      (List.nodup_cons.1 hchain.distinct).1 (List.mem_append_right waiting hm)
    obtain ⟨waiting', ran', before', heq, hconducted⟩ :=
      initializeMarked_conducts hcode (hlooks type) hfind hunmarked hnew habove
    rw [initializeWithin_of_unmarked hfind hunmarked]
    exact ⟨waiting', ran', before', _, heq ▸ hchain, hconducted, rfl⟩

theorem unmarked_length_le (statics : StaticFields) (lineage : Lineage) :
    (statics.unmarked lineage).length ≤ statics.program.size := by
  simpa [unmarked, Program.names, Program.size] using List.length_filter_le _ statics.program.names

/-- An initialization of a class that is marked or not local does nothing. Any other one marks the
classes of the chain that goes up from the class, each to the class that it extends, cut before the
first that is not local, is marked already or would come a second time. It runs their initializers
from the last class of the chain to the first, each after the static fields of its class got their
values, and stops at the first that fails. -/
theorem initializeOnce_runs_ascent (statics : StaticFields) {initializer : ClassInitializer}
    (hcode : statics.initializer = some initializer)
    (hlooks : ∀ type, (initializer type).Asks StaticRequest.OnlyLooks) (type : TypeDescriptor)
    (e : Execution) :
    ((statics.program.isLocal type = true → e.lineage.isInitialized type = true) →
      statics.initializeOnce type e = (.ok false, e)) ∧
    (statics.program.isLocal type = true → e.lineage.isInitialized type = false →
      ∃ waiting ran before result,
        (∀ chain, IsAscent statics.program.parent? (statics.unmarked e.lineage) type chain ↔
          chain = waiting ++ ran) ∧
        Conducted statics initializer waiting ran before e result
          (statics.initializeOnce type e).2 ∧
        (statics.initializeOnce type e).1 = result.map fun _ => true) := by
  refine ⟨initializeWithin_of_idle, fun hlocal hunmarked => ?_⟩
  have hascends := initializeWithin_ascends hcode hlooks statics.program.size type e
    (statics.unmarked_length_le e.lineage)
  obtain ⟨waiting, ran, before, result, hchain, hconducted, hresult⟩ :=
    hascends.works (mem_unmarked.2 ⟨hlocal, hunmarked⟩)
  exact ⟨waiting, ran, before, result, fun chain => ⟨hchain.unique, fun heq => heq ▸ hchain⟩,
    hconducted, hresult⟩

/-- The initializer of the class that another one extends fails, and that of the other never runs.
-/
theorem initializeOnce_runs_ascent_baseFails :
    ∃ before, Conducted (Sample.machine Sample.baseFails).statics Sample.baseFails
      [Sample.derived] [Sample.base] before default
      (.error (.fault (.initializerFailed Sample.base "boom")))
      ((Sample.machine Sample.baseFails).statics.initializeOnce Sample.derived default).2 := by
  have hlooks : ∀ type, (Sample.baseFails type).Asks StaticRequest.OnlyLooks := by
    intro type
    unfold Sample.baseFails
    split <;> trivial
  obtain ⟨waiting, ran, before, result, hchain, hconducted, hresult⟩ :=
    (initializeOnce_runs_ascent (Sample.machine Sample.baseFails).statics rfl hlooks Sample.derived
      default).2 (by decide) (by decide)
  have hascent : [Sample.derived, Sample.base] = waiting ++ ran :=
    (hchain _).1 ⟨rfl, by decide, by decide, by decide, by decide⟩
  obtain rfl : ran = [Sample.base] :=
    (List.append_nil ran).symm.trans (hconducted.started.symm.trans rfl)
  obtain rfl : waiting = [Sample.derived] := (List.append_cancel_right hascent).symm
  cases result with
  | ok => cases hresult
  | error failure =>
    cases hresult
    exact ⟨before, hconducted⟩

end StaticFields

end Dalvik
