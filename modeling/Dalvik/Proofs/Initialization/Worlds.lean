import Dalvik.Proofs.Initialization.Actions
import Dalvik.World

/-!
# Lineages of a world

Whatever is done in a world, each of its lineages only advances, and a new one starts from nothing
or from where its origin is. So what holds of every lineage that comes about by steps holds of the
lineages of every world.
-/

namespace Dalvik.World

open Run StaticFields

variable {α : Type} {machine : Machine} {world later last : World} {name : String}
  {context : Context} {lineage : Lineage}

/-- Every lineage has come about by steps and is in the middle of no initialization, and every
context belongs to one of them. -/
structure Sound (machine : Machine) (world : World) : Prop where
  reachable : ∀ lineage ∈ world.lineages, machine.statics.Reachable lineage
  idle : ∀ lineage ∈ world.lineages, Idle lineage
  placed : ∀ name context, world.contexts.get? name = some context →
    context.lineage < world.lineages.length

/-- Each lineage of `world` is there in `later` under its number, and has at most advanced. -/
def Evolves (machine : Machine) (world later : World) : Prop :=
  ∀ (number : Nat) lineage, world.lineages[number]? = some lineage →
    ∃ now, later.lineages[number]? = some now ∧ Advances machine.statics [] lineage now

theorem Evolves.of_eq (h : later.lineages = world.lineages) : Evolves machine world later :=
  fun _ lineage hn => ⟨lineage, h ▸ hn, .refl lineage⟩

theorem Evolves.trans (h : Evolves machine world later) (h' : Evolves machine later last) :
    Evolves machine world last := by
  intro number lineage hn
  obtain ⟨now, hnow, hadvances⟩ := h number lineage hn
  obtain ⟨final, hfinal, hadvances'⟩ := h' number now hnow
  exact ⟨final, hfinal, hadvances.trans hadvances'⟩

/-- What is done turns a sound world into a sound one in which its lineages have at most advanced.
-/
def Proceeds (machine : Machine) (world later : World) : Prop :=
  Sound machine later ∧ Evolves machine world later

theorem Proceeds.trans (h : Proceeds machine world later) (h' : Proceeds machine later last) :
    Proceeds machine world last :=
  ⟨h'.1, h.2.trans h'.2⟩

theorem Sound.proceeds (h : Sound machine world) : Proceeds machine world world :=
  ⟨h, .of_eq rfl⟩

theorem lineage_eq {number : Nat} (h : world.lineages[number]? = some lineage) :
    world.lineage number = lineage := by
  simp [World.lineage, List.getD, h]

/-- The lineage that a number stands for; a number without a lineage stands for one at its start.
-/
theorem Sound.number (h : Sound machine world) (number : Nat) :
    machine.statics.Reachable (world.lineage number) ∧ Idle (world.lineage number) := by
  cases hn : world.lineages[number]? with
  | some lineage =>
    rw [lineage_eq hn]
    exact ⟨h.reachable lineage (List.mem_of_getElem? hn), h.idle lineage (List.mem_of_getElem? hn)⟩
  -- No context belongs to such a number, but what is done in one would still be defined.
  | none =>
    have hdefault : world.lineage number = Lineage.start default := by
      simp [World.lineage, List.getD, hn]
      rfl
    rw [hdefault]
    exact ⟨.start default, rfl⟩

/-! ## Names of contexts -/

theorem Sound.setContext (h : Sound machine world) (hc : context.lineage < world.lineages.length) :
    Proceeds machine world (setContext name context world).2 := by
  refine ⟨⟨h.reachable, h.idle, fun other found hfound => ?_⟩, .of_eq rfl⟩
  by_cases hother : name = other
  · subst hother
    obtain rfl : context = found := Option.some.inj ((Table.get?_insert_self ..).symm.trans hfound)
    exact hc
  · exact h.placed other found ((Table.get?_insert_ne _ hother _).symm.trans hfound)

theorem Sound.dropContext (h : Sound machine world) (name : String) :
    Proceeds machine world (dropContext name world).2 := by
  refine ⟨⟨h.reachable, h.idle, fun other found hfound => ?_⟩, .of_eq rfl⟩
  have hget : (world.contexts.erase name).get? other = some found := hfound
  rw [Table.get?_erase] at hget
  split at hget
  · cases hget
  · exact h.placed other found hget

/-! ## What is done in one context -/

/-- A new lineage is added. -/
theorem Sound.extend (h : Sound machine world)
    (hlineages : later.lineages = world.lineages ++ [lineage])
    (hcontexts : later.contexts = world.contexts)
    (hreachable : machine.statics.Reachable lineage) (hidle : Idle lineage) :
    Proceeds machine world later := by
  refine ⟨⟨fun other hm => ?_, fun other hm => ?_, fun name context hc => ?_⟩, ?_⟩
  · rw [hlineages, List.mem_append, List.mem_singleton] at hm
    rcases hm with hm | rfl
    · exact h.reachable other hm
    · exact hreachable
  · rw [hlineages, List.mem_append, List.mem_singleton] at hm
    rcases hm with hm | rfl
    · exact h.idle other hm
    · exact hidle
  · rw [hcontexts] at hc
    have hplaced := h.placed name context hc
    simp only [hlineages, List.length_append]
    omega
  · intro number other hn
    refine ⟨other, ?_, .refl other⟩
    rw [hlineages]
    exact List.getElem?_append_left (List.getElem?_eq_some_iff.1 hn).1 ▸ hn

theorem Sound.openContext (h : Sound machine world) (config : Config) (registers : Registers) :
    Proceeds machine world (openContext config registers world).2 :=
  h.extend rfl rfl (.start _) rfl

theorem Sound.fork (h : Sound machine world) (context : Context) :
    Proceeds machine world (fork context world).2 := by
  obtain ⟨hreachable, hidle⟩ := h.number context.lineage
  exact h.extend rfl rfl (hreachable.steps (.single (.supply _))) hidle

theorem Sound.runIn {action : Run α} (h : Sound machine world) (context : Context)
    (hkeeps : ∀ lineage, machine.statics.Reachable lineage → Idle lineage →
      Keeps (Advances machine.statics [] lineage) action) :
    Proceeds machine world (runIn context action world).2 := by
  obtain ⟨hreachable, hidle⟩ := h.number context.lineage
  have hadvances := hkeeps _ hreachable hidle (.ofFrame context.frame _) (.refl _)
  -- Only the lineage of the context changes, and its number may stand for none.
  set now := (action (.ofFrame context.frame (world.lineage context.lineage))).2.lineage with hnow
  have hlineages : (World.runIn context action world).2.lineages =
      world.lineages.set context.lineage now := rfl
  refine ⟨⟨fun other hm => ?_, fun other hm => ?_, fun name found hc => ?_⟩, ?_⟩
  · rcases List.mem_or_eq_of_mem_set (hlineages ▸ hm) with hm | rfl
    · exact h.reachable other hm
    · exact hadvances.reachable hreachable
  · rcases List.mem_or_eq_of_mem_set (hlineages ▸ hm) with hm | rfl
    · exact h.idle other hm
    · exact hadvances.idle hidle
  · rw [hlineages, List.length_set]
    exact h.placed name found hc
  · intro number other hn
    rw [hlineages, List.getElem?_set]
    by_cases heq : context.lineage = number
    · subst heq
      have hlt := (List.getElem?_eq_some_iff.1 hn).1
      exact ⟨now, by simp [hlt], lineage_eq hn ▸ hadvances⟩
    · exact ⟨other, by simp [heq, hn], .refl other⟩

/-- Code leaves a context in its lineage. -/
theorem runIn_placed (world : World) (action : Run α)
    (hc : context.lineage < world.lineages.length) :
    (runIn context action world).1.2.lineage < (runIn context action world).2.lineages.length := by
  show context.lineage < (world.lineages.set _ _).length
  rwa [List.length_set]

/-! ## What is done in a world -/

theorem bind_apply {β : Type} (action : StateM World α) (next : α → StateM World β)
    (world : World) :
    (action >>= next) world = next (action world).1 (action world).2 := rfl

theorem context?_apply (name : String) (world : World) :
    context? name world = (world.contexts.get? name, world) := rfl

theorem spawn_apply (context : Context) (method : String) (registers : Registers) (world : World) :
    spawn context method registers world =
      let out := runIn context (Run.call method registers) world
      (out.1.1.map fun frame => { context with frame }, out.2) := rfl

/-- Whatever is done in a world, its lineages at most advance. -/
theorem Sound.perform (h : Sound machine world) (operation : Operation) :
    Proceeds machine world (perform machine operation world).2 := by
  cases operation with
  | openContext name config registers =>
    have hopen := h.openContext config registers
    refine hopen.trans (hopen.1.setContext ?_)
    show world.lineages.length < (world.lineages ++ [_]).length
    simp
  | act name action =>
    simp only [World.perform, runNamed, bind_apply, context?_apply]
    cases hname : world.contexts.get? name with
    | none => exact h.proceeds
    | some context =>
      have hrun := h.runIn context fun _ hl hidle => machine.keeps_act hl hidle action
      exact hrun.trans (hrun.1.setContext (runIn_placed world _ (h.placed name context hname)))
  | spawn parent child method registers =>
    simp only [World.perform, bind_apply, context?_apply]
    cases hname : world.contexts.get? parent with
    | none => exact h.proceeds
    | some context =>
      have hcall := h.runIn context fun _ _ _ => Keeps.call method registers
      simp only [bind_apply, spawn_apply]
      cases (World.runIn context (Run.call method registers) world).1.1 with
      | error failure => exact hcall
      | ok frame =>
        exact hcall.trans (hcall.1.setContext
          (runIn_placed world (Run.call method registers) (h.placed parent context hname)))
  | fork origin copy =>
    simp only [World.perform, bind_apply, context?_apply]
    cases hname : world.contexts.get? origin with
    | none => exact h.proceeds
    | some context =>
      have hfork := h.fork context
      refine hfork.trans (hfork.1.setContext ?_)
      show world.lineages.length < (world.lineages ++ [_]).length
      simp
  | join parent child =>
    simp only [World.perform, bind_apply, context?_apply]
    cases hparent : world.contexts.get? parent with
    | none => exact h.proceeds
    | some context =>
      cases hchild : world.contexts.get? child with
      | none => exact h.proceeds
      | some callee =>
        cases hsame : decide (parent = child) with
        | true => exact h.proceeds
        | false =>
          have hdrop := h.dropContext child
          have hjoin := hdrop.1.runIn context fun _ _ _ => Keeps.join callee.frame
          have hplaced := runIn_placed (World.dropContext child world).2
            (Run.join callee.frame) (h.placed parent context hparent)
          exact (hdrop.trans hjoin).trans (hjoin.1.setContext hplaced)
  | drop name => exact h.dropContext name

/-- Reading a static field of a class that is marked answers with what the field holds, or with the
default of its type. -/
theorem perform_read {field : FieldId} {declared : DeclaredField}
    (hname : world.contexts.get? name = some context)
    (hdeclared : machine.statics.resolve field = .ok declared)
    (hmarked : (world.lineage context.lineage).isInitialized field.owner = true) :
    (perform machine (.act name (.readStatic field)) world).1 = some (.ok (.value
      (some (((world.lineage context.lineage).static? field).getD (.default field.type))))) := by
  have hread := read_of_marked (e := .ofFrame context.frame (world.lineage context.lineage))
    hdeclared hmarked
  simp only [World.perform, runNamed, bind_apply, context?_apply, hname]
  show some ((machine.statics.read field >>= _) (.ofFrame context.frame _)).1 = _
  rw [bind_of_ok hread]
  rfl

theorem Sound.performAll (h : Sound machine world) (operations : List Operation) :
    Proceeds machine world (performAll machine operations world) := by
  induction operations generalizing world with
  | nil => exact h.proceeds
  | cons operation rest ih =>
    have hfirst := h.perform operation
    exact hfirst.trans (ih hfirst.1)

theorem after_concat (machine : Machine) (operations : List Operation) (operation : Operation) :
    after machine (operations ++ [operation]) =
      (World.perform machine operation (after machine operations)).2 := by
  simp [after, World.performAll]

/-- A fork gets a new lineage, which differs from that of its origin in what it will give out. -/
theorem after_fork (machine : Machine) (operations : List Operation) {origin : String}
    (copy : String) (hname : (after machine operations).contexts.get? origin = some context)
    (h : (after machine operations).lineages[context.lineage]? = some lineage) :
    ∃ supply, (after machine (operations ++ [.fork origin copy])).lineages[
        (after machine operations).lineages.length]? = some { lineage with supply } ∧
      (after machine (operations ++ [.fork origin copy])).contexts.get? copy =
        some { context with lineage := (after machine operations).lineages.length } := by
  rw [after_concat]
  simp only [World.perform, bind_apply, context?_apply, hname]
  refine ⟨(after machine operations).freshSupply, ?_, Table.get?_insert_self ..⟩
  rw [← lineage_eq h]
  exact List.getElem?_concat_length

theorem sound_start (machine : Machine) : Sound machine (start machine) := by
  have hempty : Sound machine { empty with log := [Event.loaded machine.program.size] } :=
    ⟨fun _ h => absurd h List.not_mem_nil, fun _ h => absurd h List.not_mem_nil,
      fun _ _ h => absurd h (by simp [empty])⟩
  exact (hempty.perform _).1

theorem sound_after (machine : Machine) (operations : List Operation) :
    Sound machine (after machine operations) :=
  ((sound_start machine).performAll operations).1

theorem evolves_after (machine : Machine) (operations more : List Operation) :
    Evolves machine (after machine operations) (after machine (operations ++ more)) := by
  have hmore : after machine (operations ++ more) =
      World.performAll machine more (after machine operations) := by
    simp [after, World.performAll]
  rw [hmore]
  exact ((sound_after machine operations).performAll more).2

end Dalvik.World

namespace Dalvik.Sample

/-! ## A sample machine -/

/-- A class that extends nothing. -/
def base : TypeDescriptor := .named "LB;"

/-- A class that extends `base`. -/
def derived : TypeDescriptor := .named "LC;"

/-- A static field of `derived`. -/
def count : FieldId := ⟨derived, "F", .int⟩

/-- The local classes `base` and `derived`, the second with `count`, which starts with 5. -/
def program : Program where
  definitions := [.withParent (.ofName base) none,
    .withStaticField (.withParent (.ofName derived) (some base)) ⟨"F", .int, .publicFlag⟩ (.int 5)]
  distinct := by decide

/-- A machine for the two classes with these initializers. -/
def machine (initializer : ClassInitializer) : Machine :=
  { Machine.ofProgram program with statics := ⟨program, some initializer⟩ }

/-- The initializer of `base` fails and the others do nothing. -/
def baseFails : ClassInitializer := fun type =>
  if type = base then .fail (.other "boom") else .done ()

/-- The initializer of `base` assigns 7 to `count` and the others do nothing. -/
def baseWrites : ClassInitializer := fun type =>
  if type = base then .request (StaticRequest.write count (.int 7)) else .done ()

/-- The context `root` reads `count`. -/
def readCount : World.Operation := .act "root" (.readStatic count)

/-- The world after `count` was read once, which failed. -/
def failed : World := .after (machine baseFails) [readCount]

/-- The world after `count` was read twice, which both times succeeded. -/
def overwritten : World := .after (machine baseWrites) [readCount, readCount]

end Dalvik.Sample
