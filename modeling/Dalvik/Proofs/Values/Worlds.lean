import Dalvik.Proofs.Operations
import Dalvik.Proofs.Values.Runs

/-!
# Values in worlds

A property of values that the library does not destroy, in a whole run: if the values that the
machine is given and those in all operations have it, then all values in registers, slots and static
fields have it, whenever one looks, and so have all that are answered.
-/

namespace Dalvik.World

open Run

variable {P : Value → Prop} {machine : Machine} {world : World} {name : String}

/-- All values in the world have the property. -/
structure Holds (P : Value → Prop) (world : World) : Prop where
  lineages : ∀ lineage ∈ world.lineages, lineage.Holds P
  contexts {name : String} {context : Context} :
    world.contexts.get? name = some context → context.frame.registers.Holds P

/-- Every value in the operation has the property. -/
def Operation.Holds (P : Value → Prop) : Operation → Prop
  | .openContext _ _ registers | .spawn _ _ _ registers => registers.Holds P
  | .act _ action => action.Holds P
  | .fork _ _ | .join _ _ | .drop _ => True

/-! ## The parts of operations -/

theorem Holds.lineage (h : world.Holds P) (number : Nat) : (world.lineage number).Holds P := by
  unfold World.lineage
  rw [List.getD_eq_getElem?_getD]
  cases hfound : world.lineages[number]? with
  | some lineage => exact h.lineages lineage (List.mem_of_getElem? hfound)
  | none => exact Lineage.holds_start default

theorem Holds.setContext (h : world.Holds P) (name : String) {context : Context}
    (hcontext : context.frame.registers.Holds P) : (setContext name context world).2.Holds P := by
  refine ⟨h.lineages, ?_⟩
  intro other found hfound
  change (world.contexts.insert name context).get? other = some found at hfound
  by_cases hsame : name = other
  · subst hsame
    rw [Table.get?_insert_self] at hfound
    cases hfound
    exact hcontext
  · rw [Table.get?_insert_ne _ hsame] at hfound
    exact h.contexts hfound

theorem Holds.dropContext (h : world.Holds P) (name : String) :
    (dropContext name world).2.Holds P := by
  refine ⟨h.lineages, ?_⟩
  intro other found hfound
  change (world.contexts.erase name).get? other = some found at hfound
  rw [Table.get?_erase] at hfound
  split at hfound
  · cases hfound
  · exact h.contexts hfound

theorem Holds.extend (h : world.Holds P) {lineage : Lineage} (hlineage : lineage.Holds P)
    (log : List Event) :
    { world with lineages := world.lineages ++ [lineage], log }.Holds P :=
  ⟨List.forall_mem_append.2 ⟨h.lineages, List.forall_mem_singleton.2 hlineage⟩, h.contexts⟩

/-- Code that carries the property, in a context. -/
theorem Holds.runIn {α : Type} {Q : α → Prop} {action : Run α} (h : world.Holds P)
    (haction : Carries P Q action) {context : Context}
    (hcontext : context.frame.registers.Holds P) :
    (World.runIn context action world).2.Holds P ∧
      (World.runIn context action world).1.2.frame.registers.Holds P ∧
      ∀ answer, (World.runIn context action world).1.1 = .ok answer → Q answer := by
  obtain ⟨hholds, hanswer⟩ :=
    haction (.ofFrame context.frame (world.lineage context.lineage)) ⟨hcontext, h.lineage _⟩
  refine ⟨⟨?_, h.contexts⟩, hholds.registers, hanswer⟩
  intro lineage hlineage
  rcases List.mem_or_eq_of_mem_set hlineage with hold | rfl
  · exact h.lineages lineage hold
  · exact hholds.lineage

/-! ## Operations -/

/-- An operation that answers nothing answers no value without the property. -/
theorem holds_of_none (reply : Reply)
    (h : some (Except.ok Reply.none) = some (Except.ok (ε := Failure) reply)) : reply.Holds P := by
  cases h
  trivial

/-- One operation keeps the property, and answers with values that have it. -/
theorem Holds.perform (hclosed : Value.Closed P) (hmachine : machine.Holds P) (h : world.Holds P)
    {operation : Operation} (hoperation : operation.Holds P) :
    (World.perform machine operation world).2.Holds P ∧
      ∀ reply, (World.perform machine operation world).1 = some (.ok reply) → reply.Holds P := by
  rcases absent_or_present operation world with ⟨name, hneeds, hname⟩ | hpresent
  · rw [perform_of_absent hneeds hname]
    exact ⟨h, nofun⟩
  cases operation with
  | openContext name config registers =>
    refine ⟨?_, holds_of_none⟩
    exact (h.extend (Lineage.holds_start _) world.log).setContext name (hoperation.setTraced _)
  | drop name => exact ⟨h.dropContext name, holds_of_none⟩
  | act name action =>
    obtain ⟨context, hname⟩ := hpresent name (List.mem_singleton_self name)
    obtain ⟨hworld, hframe, hanswer⟩ :=
      h.runIn (Machine.carries_act hclosed hmachine hoperation) (h.contexts hname)
    rw [perform_act hname]
    refine ⟨hworld.setContext name hframe, ?_⟩
    intro reply hreply
    exact hanswer reply (Option.some.inj hreply)
  | spawn parent child method registers =>
    obtain ⟨context, hname⟩ := hpresent parent (List.mem_singleton_self parent)
    have hcall : Carries P (·.registers.Holds P) (Run.call method registers) :=
      .call method hoperation
    obtain ⟨hworld, -, -⟩ := h.runIn hcall (h.contexts hname)
    cases hcallee : context.frame.call method registers with
    | error fault =>
      rw [perform_spawn_error hname hcallee]
      exact ⟨hworld, nofun⟩
    | ok callee =>
      rw [perform_spawn_ok hname hcallee]
      refine ⟨hworld.setContext child ?_, holds_of_none⟩
      exact hoperation.frameCall hcallee
  | fork origin copy =>
    obtain ⟨context, hname⟩ := hpresent origin (List.mem_singleton_self origin)
    have hframe := h.contexts hname
    rw [perform_fork hname]
    refine ⟨?_, holds_of_none⟩
    exact (h.extend ((h.lineage _).withSupply _) _).setContext copy hframe
  | join parent child =>
    by_cases hsame : parent = child
    · subst hsame
      rw [perform_join_self]
      exact ⟨h, nofun⟩
    obtain ⟨context, hname⟩ := hpresent parent (List.mem_pair.2 (.inl rfl))
    obtain ⟨callee, hchild⟩ := hpresent child (List.mem_pair.2 (.inr rfl))
    obtain ⟨hworld, -, -⟩ :=
      (h.dropContext child).runIn (.join (h.contexts hchild)) (h.contexts hname)
    rw [perform_join hname hchild hsame]
    refine ⟨hworld.setContext parent ?_, holds_of_none⟩
    exact (h.contexts hname).setInvokeResult (h.contexts hchild).returnValue

theorem Holds.performAll (hclosed : Value.Closed P) (hmachine : machine.Holds P)
    (h : world.Holds P) {operations : List Operation}
    (hoperations : ∀ operation ∈ operations, operation.Holds P) :
    (performAll machine operations world).Holds P := by
  induction operations generalizing world with
  | nil => exact h
  | cons operation rest ih =>
    obtain ⟨hfirst, hrest⟩ := List.forall_mem_cons.1 hoperations
    exact ih (h.perform hclosed hmachine hfirst).1 hrest

theorem holds_start (hclosed : Value.Closed P) (hmachine : machine.Holds P) :
    (start machine).Holds P := by
  have hempty : Holds P { empty with log := [Event.loaded machine.program.size] } :=
    ⟨fun _ h => (nomatch h), fun h => (nomatch h)⟩
  have hroot : (Operation.openContext "root" machine.config .empty).Holds P := Registers.holds_empty
  exact (hempty.perform hclosed hmachine hroot).1

/-- Whatever was done in a world, all values in it have a property that those had with which it was
done. -/
theorem holds_after (hclosed : Value.Closed P) (hmachine : machine.Holds P)
    {operations : List Operation} (hoperations : ∀ operation ∈ operations, operation.Holds P) :
    (after machine operations).Holds P :=
  (holds_start hclosed hmachine).performAll hclosed hmachine hoperations

end Dalvik.World
