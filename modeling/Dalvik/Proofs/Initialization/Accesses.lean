import Dalvik.Proofs.Initialization.Steps
import Dalvik.Proofs.Triples
import Mathlib.Data.List.Perm.Subperm

/-!
# Accesses take steps

Reads, writes and initializations, with all that they run on the way, change a lineage by steps
only, and leave behind no initialization of theirs unfinished. The bound on nested initializations
never shows: when it is reached, every local class is being initialized already.
-/

namespace Dalvik.StaticFields

open History Run

variable {statics : StaticFields} {lineage later last : Lineage} {type : TypeDescriptor}

/-! ## What code may do -/

/-- Code has run from `lineage` to `later`. It has ended all initializations that it began, and of
the classes that were marked before it has gone on with those in `own` alone. -/
structure Advances (statics : StaticFields) (own : List TypeDescriptor) (lineage later : Lineage) :
    Prop where
  steps : statics.Steps lineage later
  pending : pending later.history = pending lineage.history
  lives : ∀ other, other ∉ own → lineage.isInitialized other = true →
    life other later.history = life other lineage.history

variable {own : List TypeDescriptor}

theorem Steps.isInitialized (h : statics.Steps lineage later)
    (hi : lineage.isInitialized type = true) : later.isInitialized type = true := by
  induction h with
  | refl => exact hi
  | tail _ step ih => exact step.isInitialized ih

theorem Advances.refl (lineage : Lineage) : Advances statics own lineage lineage :=
  ⟨.refl, rfl, fun _ _ _ => rfl⟩

theorem Advances.trans (h : Advances statics own lineage later)
    (h' : Advances statics own later last) : Advances statics own lineage last where
  steps := h.steps.trans h'.steps
  pending := h'.pending.trans h.pending
  lives other hown hi :=
    (h'.lives other hown (h.steps.isInitialized hi)).trans (h.lives other hown hi)

theorem Advances.widen (h : Advances statics [] lineage later) :
    Advances statics own lineage later :=
  ⟨h.steps, h.pending, fun other _ hi => h.lives other (by simp) hi⟩

theorem Advances.reachable (h : Advances statics own lineage later)
    (hl : statics.Reachable lineage) : statics.Reachable later :=
  hl.steps h.steps

theorem Advances.isInitialized (h : Advances statics own lineage later)
    (hi : lineage.isInitialized type = true) : later.isInitialized type = true :=
  h.steps.isInitialized hi

theorem Advances.isOpen (h : Advances statics own lineage later) (hopen : Open lineage.history) :
    Open later.history := by
  intro type htop
  rw [h.pending] at htop
  exact h.steps.history.subset (hopen type htop)

/-- A step that belongs to the initialization of no class. -/
theorem Advances.quiet {step : StaticStep} (hs : statics.Step lineage later)
    (hhistory : later.history = step :: lineage.history) (hsubject : step.subject? = none) :
    Advances statics own lineage later where
  steps := .single hs
  pending := by rw [hhistory, pending_cons_of_subject_none hsubject]
  lives _ _ _ := by rw [hhistory, life_cons_of_ne (by simp [hsubject])]

/-- A step that goes on with the initialization of a class. -/
theorem Advances.goOn {step : StaticStep} (hs : statics.Step lineage later)
    (hhistory : later.history = step :: lineage.history) (hsubject : step.subject? = some type)
    (hpending : History.pending (step :: lineage.history) = History.pending lineage.history) :
    Advances statics [type] lineage later where
  steps := .single hs
  pending := by rw [hhistory, hpending]
  lives other hown _ := by
    rw [hhistory, life_cons_of_ne]
    rw [hsubject]
    simpa [eq_comm] using hown

theorem Advances.supply (supply : Supply) :
    Advances statics own lineage { lineage with supply } :=
  ⟨.single (.supply supply), rfl, fun _ _ _ => rfl⟩

/-- There is room for as many more initializations as there are local classes not being initialized.
-/
def Room (statics : StaticFields) (nesting : Nat) (lineage : Lineage) : Prop :=
  statics.program.size ≤ nesting + (History.pending lineage.history).length

theorem Advances.room {nesting : Nat} (h : Advances statics own lineage later)
    (hroom : Room statics nesting lineage) : Room statics nesting later := by
  rw [Room, h.pending]
  exact hroom

/-- Without room, every local class is being initialized. -/
theorem Coherent.pending_of_full (h : Coherent statics lineage) (hroom : Room statics 0 lineage)
    (hlocal : statics.program.isLocal type = true) : type ∈ History.pending lineage.history := by
  have hsubset : History.pending lineage.history ⊆ statics.program.names := fun other hp =>
    Program.isLocal_iff_mem_names.1 (h.began_local other (h.began_of_pending hp))
  have hlength : statics.program.names.length ≤ (History.pending lineage.history).length := by
    simpa [Program.names, Room, Program.size] using hroom
  have hperm := (List.subperm_of_subset h.nodup hsubset).perm_of_length_le hlength
  exact hperm.mem_iff.2 (Program.isLocal_iff_mem_names.1 hlocal)

/-! ## Attempts to initialize a class -/

/-- The initialization of a class has begun and ended. -/
structure Ran (statics : StaticFields) (type : TypeDescriptor) (succeeded : Bool)
    (lineage later : Lineage) : Prop where
  advances : Advances statics [] lineage later
  isLocal : statics.program.isLocal type = true
  isNew : lineage.isInitialized type = false
  history : ∃ between,
    later.history = .ended type succeeded :: (between ++ .began type :: lineage.history)

/-- How an attempt to initialize a class may end. -/
inductive Attempted (statics : StaticFields) (type : TypeDescriptor) (lineage : Lineage) :
    Except Failure Bool → Lineage → Prop where
  | idle (h : statics.program.isLocal type = true → lineage.isInitialized type = true) :
      Attempted statics type lineage (.ok false) lineage
  | succeeded {later : Lineage} (h : Ran statics type true lineage later) :
      Attempted statics type lineage (.ok true) later
  | failed {later : Lineage} (culprit : TypeDescriptor) (reason : String)
      (h : Ran statics type false lineage later) :
      Attempted statics type lineage (.error (.fault (.initializerFailed culprit reason))) later

theorem Ran.isInitialized {succeeded : Bool} (h : Ran statics type succeeded lineage later)
    (hl : statics.Reachable lineage) : later.isInitialized type = true := by
  obtain ⟨between, hhistory⟩ := h.history
  exact ((h.advances.reachable hl).coherent.marked type).2 (.inl (by simp [hhistory]))

theorem Attempted.advances {result : Except Failure Bool}
    (h : Attempted statics type lineage result later) : Advances statics [] lineage later := by
  cases h with
  | idle => exact .refl lineage
  | succeeded h => exact h.advances
  | failed _ _ h => exact h.advances

/-- A class that was prepared is marked, if it is local. -/
theorem Attempted.isInitialized {prepared : Bool} (hl : statics.Reachable lineage)
    (h : Attempted statics type lineage (.ok prepared) later)
    (hlocal : statics.program.isLocal type = true) : later.isInitialized type = true := by
  cases h with
  | idle hidle => exact hidle hlocal
  | succeeded h => exact h.isInitialized hl

/-- The run attempts to initialize the class that it is given, with room for `nesting` more
initializations at once. -/
def Prepares (statics : StaticFields) (nesting : Nat) (prepare : TypeDescriptor → Run Bool) :
    Prop :=
  ∀ type lineage, statics.Reachable lineage → Room statics nesting lineage →
    Open lineage.history ∨ statics.program.Awaits type lineage.history →
    Meets (·.lineage = lineage) (prepare type) fun result e =>
      Attempted statics type lineage result e.lineage

section Preparation

variable {nesting : Nat} {prepare : TypeDescriptor → Run Bool}

/-- Reading advances the lineage, and a read that succeeds is the latest thing in its history. -/
theorem readWith_meets (hprepare : Prepares statics nesting prepare)
    (hl : statics.Reachable lineage) (hroom : Room statics nesting lineage)
    (hopen : Open lineage.history) (field : FieldId) :
    Meets (·.lineage = lineage) (statics.readWith prepare field) fun result e =>
      Advances statics [] lineage e.lineage ∧
        ∀ value, result = .ok value → e.lineage.history.head? = some (.read field value) := by
  refine .ofExcept_bind (fun declared hdeclared => ?_) ?_
  · obtain ⟨rfl, definition, hfind, -⟩ := resolve_ok hdeclared
    refine .bind (hprepare _ _ hl hroom (.inl hopen)) (fun prepared e he => ?_) ?_
    · have hmarked := he.isInitialized hl (by simp [Program.isLocal, DeclaredField.owner, hfind])
      have hread := Step.read hdeclared hmarked (he.advances.isOpen hopen)
      exact ⟨he.advances.trans (.quiet hread rfl rfl), by rintro _ ⟨⟩; rfl⟩
    · exact fun failure e he => ⟨he.advances, by simp⟩
  · rintro fault e - rfl
    exact ⟨.refl _, by simp⟩

/-- Assigning advances the lineage, and an assignment that succeeds is the latest thing in its
history. -/
theorem writeWith_meets (hprepare : Prepares statics nesting prepare)
    (hl : statics.Reachable lineage) (hroom : Room statics nesting lineage)
    (hopen : Open lineage.history) (field : FieldId) (value : Value) :
    Meets (·.lineage = lineage) (statics.writeWith prepare field value) fun result e =>
      Advances statics [] lineage e.lineage ∧
        (result = .ok () → e.lineage.history.head? = some (.wrote field value)) := by
  refine .ofExcept_bind (fun declared hdeclared => ?_) ?_
  · obtain ⟨rfl, definition, hfind, -⟩ := resolve_ok hdeclared
    refine .ofExcept_bind (fun _ hfits => ?_) ?_
    · refine .bind (hprepare _ _ hl hroom (.inl hopen)) (fun prepared e he => ?_) ?_
      · have hmarked := he.isInitialized hl (by simp [Program.isLocal, DeclaredField.owner, hfind])
        have hwrite := Step.write value hdeclared hfits hmarked (he.advances.isOpen hopen)
        exact ⟨he.advances.trans (.quiet hwrite rfl rfl), fun _ => rfl⟩
      · exact fun failure e he => ⟨he.advances, by simp⟩
    · rintro fault e - rfl
      exact ⟨.refl _, by simp⟩
  · rintro fault e - rfl
    exact ⟨.refl _, by simp⟩

/-- To show that code advances, it may be taken from where it starts. -/
theorem keeps_advances {α : Type} {action : Run α} (hl : statics.Reachable lineage)
    (hroom : Room statics nesting lineage) (hopen : Open lineage.history)
    (h : ∀ now, statics.Reachable now → Room statics nesting now → Open now.history →
      Meets (·.lineage = now) action fun _ e => Advances statics [] now e.lineage) :
    Keeps (Advances statics [] lineage) action :=
  fun e he => he.trans (h e.lineage (he.reachable hl) (he.room hroom) (he.isOpen hopen) e rfl)

theorem keeps_serveWith (hprepare : Prepares statics nesting prepare)
    (hl : statics.Reachable lineage) (hroom : Room statics nesting lineage)
    (hopen : Open lineage.history) (request : StaticRequest) :
    Keeps (Advances statics [] lineage) (statics.serveWith prepare request) := by
  cases request with
  | read field =>
    refine keeps_advances hl hroom hopen fun now hnow hroom hopen => ?_
    exact (readWith_meets hprepare hnow hroom hopen field).consequence (fun _ h => h)
      fun _ _ h => h.1
  | write field value =>
    refine keeps_advances hl hroom hopen fun now hnow hroom hopen => ?_
    exact (writeWith_meets hprepare hnow hroom hopen field value).consequence (fun _ h => h)
      fun _ _ h => h.1
  | initializeOnce type =>
    refine keeps_advances hl hroom hopen fun now hnow hroom hopen => ?_
    exact (hprepare type now hnow hroom (.inl hopen)).consequence (fun _ h => h)
      fun _ _ h => h.advances
  | isInitialized type => exact .bind .lineage fun _ => .pure _
  | depth => exact .bind .frame fun _ => .pure _
  | parameter index => exact .readParameter index
  | assignReturn value => exact .assignReturn value
  | note text => exact .note text
  | reserve count => exact fun e he => he.trans (.supply _)

/-! ## The initialization of one class -/

/-- A failure of an initialization names the class whose initializer failed. -/
def IsInitializerFailure (failure : Failure) : Prop :=
  ∃ culprit reason, failure = .fault (.initializerFailed culprit reason)

theorem initializeParent_meets (hprepare : Prepares statics nesting prepare)
    (hl : statics.Reachable lineage) (hroom : Room statics nesting lineage)
    (hlatest : lineage.history.head? = some (.began type)) :
    Meets (·.lineage = lineage) (initializeParent prepare (statics.program.parent? type))
      fun result e => Advances statics [] lineage e.lineage ∧
        (result = .ok () → statics.program.ParentReady type e.lineage) ∧
        ∀ failure, result = .error failure →
          statics.program.CutShort type e.lineage.history ∧ IsInitializerFailure failure := by
  cases hparent : statics.program.parent? type with
  | none =>
    intro e he
    subst he
    refine ⟨.refl _, fun _ parent hp => ?_, fun _ h => by cases h⟩
    simp [hparent] at hp
  | some parent =>
    have hawaits : statics.program.Awaits parent lineage.history := ⟨type, hlatest, hparent⟩
    obtain ⟨earlier, hearlier⟩ := List.head?_eq_some_iff.1 hlatest
    have hcalled : ∀ {succeeded later}, Ran statics parent succeeded lineage later →
        Called parent type later.history ∧ .ended parent succeeded ∈ later.history := by
      intro succeeded later h
      obtain ⟨between, hhistory⟩ := h.history
      rw [hhistory, hearlier]
      exact ⟨⟨.ended parent succeeded :: between, earlier, by simp⟩, by simp⟩
    refine .bind (hprepare parent lineage hl hroom (.inr hawaits)) (fun prepared e he => ?_) ?_
    · refine ⟨he.advances, fun _ other hother hlocal => ?_, fun _ h => by cases h⟩
      obtain rfl : parent = other := by simpa [hparent] using hother
      refine ⟨he.isInitialized hl hlocal, fun hc => ?_⟩
      cases he with
      | idle => exact absurd hc (hl.coherent.not_called_of_latest hlatest _)
      | succeeded h => exact (hcalled h).2
    · intro failure e he
      refine ⟨he.advances, by simp, ?_⟩
      rintro _ ⟨⟩
      cases he with
      | failed culprit reason h => exact ⟨⟨parent, hparent, hcalled h⟩, culprit, reason, rfl⟩

theorem seedFields_meets {definition : ClassDefinition}
    (hfind : statics.program.find? type = some definition)
    (htop : (pending lineage.history).head? = some type)
    (hlife : life type lineage.history = [.began type])
    (hparent : statics.program.ParentReady type lineage) :
    Meets (·.lineage = lineage) (seedFields definition) fun result e =>
      Advances statics [type] lineage e.lineage ∧
        life type e.lineage.history = [.seeded type, .began type] ∧ result = .ok () := by
  intro e he
  subst he
  obtain rfl := Program.name_of_find? hfind
  have hseed := Step.seed hfind htop hlife hparent
  have hhistory : ((e.lineage.seed definition).record (.seeded definition.name)).history =
      .seeded definition.name :: e.lineage.history := by simp
  refine ⟨.goOn hseed hhistory rfl rfl, ?_, rfl⟩
  show life _ ((e.lineage.seed definition).record _).history = _
  rw [hhistory, life_cons_self rfl, hlife]

/-- While the initializer of the innermost class runs, code may run. -/
theorem isOpen_of_started (htop : (pending lineage.history).head? = some type) :
    Open (lineage.record (.started type)).history := by
  intro other hother
  obtain rfl : type = other := by simpa [pending, htop] using hother
  simp

/-- However far the code of an initializer has come, its class is the innermost one, and running. -/
theorem Step.stop_of_advances (hl : statics.Reachable lineage)
    (htop : (pending lineage.history).head? = some type)
    (hlife : life type lineage.history = [.seeded type, .began type])
    (h : Advances statics [] (lineage.record (.started type)) later) (succeeded : Bool) :
    statics.Step later (later.record (.ended type succeeded)) := by
  have hmarked := hl.coherent.marked_of_pending (List.mem_of_mem_head? htop)
  refine .stop succeeded ?_ ?_
  · rw [h.pending, Lineage.history_record, pending, htop]
  · rw [h.lives type List.not_mem_nil hmarked, Lineage.history_record, life_cons_self rfl, hlife]

theorem runInitializer_meets (hprepare : Prepares statics nesting prepare)
    (hl : statics.Reachable lineage) (hroom : Room statics nesting lineage)
    (htop : (pending lineage.history).head? = some type)
    (hlife : life type lineage.history = [.seeded type, .began type]) :
    Meets (·.lineage = lineage) (statics.runInitializer prepare type) fun result e =>
      Advances statics [type] lineage e.lineage ∧
        statics.Step e.lineage (e.lineage.record (.ended type result.isOk)) ∧
        ∀ failure, result = .error failure → IsInitializerFailure failure := by
  unfold runInitializer
  cases hcode : statics.initializer with
  | none =>
    intro e he
    subst he
    exact ⟨.refl _, .finish hcode htop hlife, fun _ h => by cases h⟩
  | some initializer =>
    have hstart : statics.Step lineage (lineage.record (.started type)) :=
      .start (by simp [hcode]) htop hlife
    have hbody : Keeps (Advances statics [] (lineage.record (.started type)))
        ((initializer type).run (statics.serveWith prepare)) :=
      .script (keeps_serveWith hprepare (hl.steps (.single hstart)) hroom
        (isOpen_of_started htop)) _
    refine .bind (Q := fun result e => result = .ok () ∧
      e.lineage = lineage.record (.started type)) ?_ (fun _ => ?_) ?_
    · intro e he
      subst he
      exact ⟨rfl, rfl⟩
    · refine .attempt_bind (Q := fun _ e =>
        Advances statics [] (lineage.record (.started type)) e.lineage) ?_ fun result e he => ?_
      · exact hbody.consequence (fun e he => he.2 ▸ .refl _) fun _ _ h => h
      -- A failure of the code becomes one of the initialization, which ends either way.
      · have hadvances : Advances statics [type] lineage e.lineage :=
          (Advances.goOn hstart rfl rfl rfl).trans he.widen
        have hstop := Step.stop_of_advances hl htop hlife he
        cases result with
        | ok => exact ⟨hadvances, hstop true, fun _ h => by cases h⟩
        | error failure =>
          refine ⟨hadvances, hstop false, ?_⟩
          rintro _ ⟨⟩
          exact ⟨_, _, rfl⟩
    · rintro failure e ⟨⟨⟩, -⟩

theorem initializeMarked_meets (hprepare : Prepares statics nesting prepare)
    (hl : statics.Reachable lineage) (hroom : Room statics nesting lineage)
    (hlatest : lineage.history.head? = some (.began type)) {definition : ClassDefinition}
    (hfind : statics.program.find? type = some definition) :
    Meets (·.lineage = lineage) (statics.initializeMarked prepare definition) fun result e =>
      Advances statics [type] lineage e.lineage ∧
        statics.Step e.lineage (e.lineage.record (.ended type result.isOk)) ∧
        ∀ failure, result = .error failure → IsInitializerFailure failure := by
  have hparent : statics.program.parent? type = definition.parent := by
    simp [Program.parent?, hfind]
  have htop : (pending lineage.history).head? = some type := by
    obtain ⟨earlier, hearlier⟩ := List.head?_eq_some_iff.1 hlatest
    simp [hearlier, pending]
  have hmarked := hl.coherent.marked_of_pending (List.mem_of_mem_head? htop)
  have hlife := hl.coherent.life_of_latest hlatest
  have hname := Program.name_of_find? hfind
  unfold initializeMarked
  rw [← hparent, hname]
  refine .bind (initializeParent_meets hprepare hl hroom hlatest) (fun _ => .each ?_) ?_
  · intro e h
    obtain ⟨hadvances, hready, -⟩ := h
    -- The class that is extended leaves this one where it is, so its values come next.
    have hlife' : life type e.lineage.history = [.began type] := by
      rw [hadvances.lives type List.not_mem_nil hmarked, hlife]
    have hseed := seedFields_meets hfind (hadvances.pending ▸ htop) hlife' (hready rfl)
    refine .bind (.consequence hseed (by rintro _ rfl; rfl) fun _ _ h => h) (fun _ => .each ?_) ?_
    · intro e' h
      obtain ⟨hseeded, hlife'', -⟩ := h
      have hboth : Advances statics [type] lineage e'.lineage := hadvances.widen.trans hseeded
      refine .consequence (runInitializer_meets hprepare (hboth.reachable hl) (hboth.room hroom)
        (hboth.pending ▸ htop) hlife'') (by rintro _ rfl; rfl) ?_
      intro result last h
      obtain ⟨hrun, hend, hfailure⟩ := h
      exact ⟨hboth.trans hrun, hend, hfailure⟩
    · rintro failure e' ⟨-, -, ⟨⟩⟩
  · intro failure e h
    obtain ⟨hadvances, -, hfailure⟩ := h
    obtain ⟨hcut, hinitializer⟩ := hfailure failure rfl
    refine ⟨hadvances.widen, .abandon (hadvances.pending ▸ htop) ?_ hcut, ?_⟩
    · rw [hadvances.lives type List.not_mem_nil hmarked, hlife]
    · rintro _ ⟨⟩
      exact hinitializer

/-- When a class that was not marked has been dealt with, its initialization has begun and ended. -/
theorem Ran.of_advances {succeeded : Bool}
    (henter : statics.Step lineage ((lineage.mark type).record (.began type)))
    (hlocal : statics.program.isLocal type = true) (hnew : lineage.isInitialized type = false)
    (hadvances : Advances statics [type] ((lineage.mark type).record (.began type)) later)
    (hend : statics.Step later (later.record (.ended type succeeded))) :
    Ran statics type succeeded lineage (later.record (.ended type succeeded)) := by
  refine ⟨⟨(Relation.ReflTransGen.single henter).trans (hadvances.steps.tail hend), ?_, ?_⟩,
    hlocal, hnew, ?_⟩
  · simp [pending, hadvances.pending]
  · intro other _ hother
    have hne : other ≠ type := by
      rintro rfl
      simp [hother] at hnew
    have hsubject : ∀ step : StaticStep, step.subject? = some type → step.subject? ≠ some other :=
      fun step hs => by simpa [hs] using hne.symm
    rw [Lineage.history_record, life_cons_of_ne (hsubject _ rfl),
      hadvances.lives other (by simpa using hne) (by simp [hother]), Lineage.history_record,
      life_cons_of_ne (hsubject _ rfl), Lineage.history_mark]
  · obtain ⟨between, hbetween⟩ := hadvances.steps.history
    exact ⟨between, by simpa using hbetween.symm⟩

end Preparation

/-- Attempts to initialize a class do as they should, however many more there is room for. -/
theorem prepares_initializeWithin (statics : StaticFields) (nesting : Nat) :
    Prepares statics nesting (statics.initializeWithin nesting) := by
  induction nesting with
  | zero =>
    rintro type lineage hl hroom hcall e rfl
    -- There is no room: what is local is being initialized, so it is marked.
    exact .idle fun hlocal =>
      hl.coherent.marked_of_pending (hl.coherent.pending_of_full hroom hlocal)
  | succ nesting ih =>
    intro type lineage hl hroom hcall
    unfold initializeWithin
    cases hfind : statics.program.find? type with
    | none =>
      intro e he
      subst he
      exact .idle fun hlocal => by simp [Program.isLocal, hfind] at hlocal
    | some definition =>
      have hlocal : statics.program.isLocal type = true := by simp [Program.isLocal, hfind]
      refine .mark_bind (fun hmarked => ?_) fun hnew => ?_
      · intro e he
        subst he
        exact .idle fun _ => hmarked
      · have henter := Step.enter hlocal hnew hcall
        have hroom' : Room statics nesting ((lineage.mark type).record (.began type)) := by
          simp only [Room, Lineage.history_record, Lineage.history_mark, pending,
            List.length_cons] at hroom ⊢
          omega
        refine .attempt_bind (initializeMarked_meets ih (hl.steps (.single henter)) hroom'
          (by simp) hfind) fun result e he => ?_
        obtain ⟨hadvances, hend, hfailure⟩ := he
        have hran := Ran.of_advances henter hlocal hnew hadvances hend
        cases result with
        | ok => exact .succeeded hran
        | error failure =>
          obtain ⟨culprit, reason, rfl⟩ := hfailure failure rfl
          exact .failed culprit reason hran

theorem room_size (statics : StaticFields) (lineage : Lineage) :
    Room statics statics.program.size lineage :=
  Nat.le_add_right ..

theorem prepares_initializeOnce (statics : StaticFields) :
    Prepares statics statics.program.size statics.initializeOnce :=
  prepares_initializeWithin statics statics.program.size

/-- A class that is marked or not local is left alone. -/
theorem initializeWithin_of_idle {nesting : Nat} {e : Execution}
    (h : statics.program.isLocal type = true → e.lineage.isInitialized type = true) :
    statics.initializeWithin nesting type e = (.ok false, e) := by
  cases nesting with
  | zero => rfl
  | succ nesting =>
    unfold initializeWithin
    cases hfind : statics.program.find? type with
    | none => rfl
    | some definition =>
      show (mark type (.began type) >>= _) e = _
      rw [bind_apply, mark_apply, if_pos (h (by simp [Program.isLocal, hfind]))]
      rfl

/-- A class that is marked is left alone. -/
theorem initializeOnce_of_marked {e : Execution} (h : e.lineage.isInitialized type = true) :
    statics.initializeOnce type e = (.ok false, e) :=
  initializeWithin_of_idle fun _ => h

theorem read_of_marked {field : FieldId} {declared : DeclaredField} {e : Execution}
    (hdeclared : statics.resolve field = .ok declared)
    (h : e.lineage.isInitialized field.owner = true) :
    (statics.read field e).1 =
      .ok ((e.lineage.static? field).getD (.default field.type)) := by
  obtain ⟨rfl, -⟩ := resolve_ok hdeclared
  unfold read readWith
  rw [hdeclared]
  show ((statics.initializeOnce declared.id.owner >>= _) e).1 = _
  rw [bind_apply, initializeOnce_of_marked h]
  rfl

/-- No initialization is under way. -/
def Idle (lineage : Lineage) : Prop :=
  pending lineage.history = []

theorem Idle.isOpen (h : Idle lineage) : Open lineage.history := by
  intro type htop
  rw [h] at htop
  cases htop

theorem Advances.idle (h : Advances statics own lineage later) (hidle : Idle lineage) :
    Idle later :=
  h.pending.trans hidle

/-- Requests from outside of all initializations. -/
theorem keeps_serve (hl : statics.Reachable lineage) (hidle : Idle lineage)
    (request : StaticRequest) : Keeps (Advances statics [] lineage) (statics.serve request) :=
  keeps_serveWith (prepares_initializeOnce statics) hl (room_size statics lineage) hidle.isOpen
    request

end Dalvik.StaticFields
