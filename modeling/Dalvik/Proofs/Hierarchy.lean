import Dalvik.Machine
import Mathlib.Computability.StateTransition

/-!
# Walks through a hierarchy

A walk that leaves each type only once finds the types that any number of steps to a parent reaches,
whether or not there are cycles, and so does a walk of as many steps as there are types with a
parent. A type has one parent at most, so of two types that a third one reaches, one reaches the
other. The walk of a program through its local classes is the second kind of walk, that of a machine
the first.
-/

namespace Dalvik

open Relation StateTransition

namespace Hierarchy

variable {parent? : TypeDescriptor → Option TypeDescriptor} {type target parent : TypeDescriptor}
  {types : List TypeDescriptor}

/-- Steps to a parent that start in `types`. -/
def ReachesWithin (parent? : TypeDescriptor → Option TypeDescriptor) (types : List TypeDescriptor) :
    TypeDescriptor → TypeDescriptor → Prop :=
  ReflTransGen fun child parent => child ∈ types ∧ parent? child = some parent

theorem mem_others {other : TypeDescriptor} :
    other ∈ others type types ↔ other ∈ types ∧ other ≠ type := by
  simp [others]

theorem ReachesWithin.mono {more : List TypeDescriptor}
    (h : ReachesWithin parent? types type target) (hsub : ∀ other ∈ types, other ∈ more) :
    ReachesWithin parent? more type target :=
  ReflTransGen.mono (fun _ _ hstep => ⟨hsub _ hstep.1, hstep.2⟩) _ _ h

/-- Whatever is reached is reached without leaving `type`, or is reached so from its parent: what
comes before the last visit to `type` can be left out. -/
theorem ReachesWithin.avoid {start : TypeDescriptor} (hparent : parent? type = some parent)
    (h : ReachesWithin parent? types start target) :
    ReachesWithin parent? (others type types) start target ∨
      ReachesWithin parent? (others type types) parent target := by
  induction h using ReflTransGen.head_induction_on with
  | refl => exact .inl .refl
  | @head child next hstep _ ih =>
    obtain ⟨hmem, hnext⟩ := hstep
    rcases ih with ih | ih
    · by_cases heq : child = type
      · subst heq
        obtain rfl : parent = next := Option.some.inj (hparent.symm.trans hnext)
        exact .inr ih
      · exact .inl (ih.head ⟨mem_others.2 ⟨hmem, heq⟩, hnext⟩)
    · exact .inr ih

/-- What is reached from a type is that type, or is reached from its parent without leaving the
type again. -/
theorem reachesWithin_iff_parent :
    ReachesWithin parent? types type target ↔ type = target ∨ type ∈ types ∧
      ∃ parent, parent? type = some parent ∧
        ReachesWithin parent? (others type types) parent target := by
  constructor
  · intro h
    rcases ReflTransGen.cases_head h with heq | ⟨parent, ⟨hmem, hparent⟩, hrest⟩
    · exact .inl heq
    · exact .inr ⟨hmem, parent, hparent, (ReachesWithin.avoid hparent hrest).elim id id⟩
  · rintro (rfl | ⟨hmem, parent, hparent, hrest⟩)
    · exact .refl
    · exact ReflTransGen.head ⟨hmem, hparent⟩ (hrest.mono fun _ ho => (mem_others.1 ho).1)

/-- The walk that leaves each type only once finds all that can be reached. -/
theorem climbsThrough_iff :
    climbsThrough parent? target types type = true ↔ ReachesWithin parent? types type target := by
  induction types, type using climbsThrough.induct with
  | case1 types type ih =>
    rw [climbsThrough, Bool.or_eq_true, beq_iff_eq, reachesWithin_iff_parent]
    by_cases hmem : type ∈ types
    · cases hparent : parent? type with
      | none => simp [hmem]
      | some parent => simp [hmem, ih hmem]
    · simp [hmem]

theorem reachesWithin_iff (h : ∀ child parent, parent? child = some parent → child ∈ types) :
    ReachesWithin parent? types type target ↔ Reaches parent? type target := by
  constructor
  · exact fun hr => ReflTransGen.mono (fun _ _ hstep => hstep.2) _ _ hr
  · exact fun hr => ReflTransGen.mono (fun _ _ hstep => ⟨h _ _ hstep, hstep⟩) _ _ hr

/-! ## As many steps as there are types with a parent -/

theorem climbsWithin_self (parent? : TypeDescriptor → Option TypeDescriptor) (steps : Nat)
    (type : TypeDescriptor) : climbsWithin parent? type steps type = true := by
  cases steps <;> simp [climbsWithin]

/-- A walk that leaves each type only once takes no more steps than there are types. -/
theorem climbsWithin_of_climbsThrough {steps : Nat}
    (h : climbsThrough parent? target types type = true) (hsteps : types.length ≤ steps) :
    climbsWithin parent? target steps type = true := by
  induction types, type using climbsThrough.induct generalizing steps with
  | case1 types type ih =>
    rw [climbsThrough, Bool.or_eq_true, beq_iff_eq] at h
    rcases h with rfl | h
    · exact climbsWithin_self parent? steps type
    split at h
    · rename_i hmem
      cases hparent : parent? type with
      | none => simp [hparent] at h
      | some parent =>
        simp only [hparent] at h
        have hfewer := length_others_lt hmem
        obtain ⟨fewer, rfl⟩ : ∃ fewer, steps = fewer + 1 := Nat.exists_eq_add_one.2 (by omega)
        have hrest := ih hmem parent h (by omega : (others type types).length ≤ fewer)
        simp [climbsWithin, hparent, hrest]
    · cases h

theorem reaches_of_climbsWithin {steps : Nat}
    (h : climbsWithin parent? target steps type = true) : Reaches parent? type target := by
  induction steps generalizing type with
  | zero =>
    obtain rfl : type = target := by simpa [climbsWithin] using h
    exact .refl
  | succ steps ih =>
    rw [climbsWithin, Bool.or_eq_true, beq_iff_eq] at h
    rcases h with rfl | h
    · exact .refl
    · cases hparent : parent? type with
      | none => simp [hparent] at h
      | some parent => exact ReflTransGen.head hparent (ih (by simpa [hparent] using h))

/-- A walk may be cut off after as many steps as there are types with a parent. -/
theorem climbsWithin_iff {steps : Nat}
    (h : ∀ child parent, parent? child = some parent → child ∈ types)
    (hsteps : types.length ≤ steps) :
    climbsWithin parent? target steps type = true ↔ Reaches parent? type target := by
  constructor
  · exact reaches_of_climbsWithin
  · intro hr
    exact climbsWithin_of_climbsThrough (climbsThrough_iff.2 ((reachesWithin_iff h).2 hr)) hsteps

end Hierarchy

namespace Machine

open Hierarchy

variable {machine : Machine} {type target parent : TypeDescriptor}

/-- Only local classes, and those in the table of the platform, have a parent. -/
theorem mem_of_parent? (h : machine.parent? type = some parent) :
    type ∈ machine.program.names ++ machine.platform.parents.keys := by
  rw [List.mem_append]
  unfold parent? at h
  split at h
  · rename_i definition hfind
    exact .inl (Program.isLocal_iff_mem_names.1 (by simp [Program.isLocal, hfind]))
  · exact .inr (Table.mem_keys_of_get? h)

/-- A class is one of `target` if that is the root, or is reached from it. -/
theorem isInstanceOf_iff :
    machine.isInstanceOf type target = true ↔
      target = .object ∨ Reaches machine.parent? type target := by
  rw [isInstanceOf, Bool.or_eq_true, climbsThrough_iff,
    reachesWithin_iff fun _ _ h => mem_of_parent? h]
  simp [TypeDescriptor.isObject]

/-- A class extends another. -/
inductive Extends (machine : Machine) : TypeDescriptor → TypeDescriptor → Prop
  /-- A local class extends the class that it declares, whatever the platform says. -/
  | declared {type parent : TypeDescriptor} {definition : ClassDefinition} :
      machine.program.find? type = some definition → definition.parent = some parent →
      Extends machine type parent
  /-- Any other class extends the one that the platform tells. -/
  | known {type parent : TypeDescriptor} :
      machine.program.isLocal type = false → machine.platform.parents.get? type = some parent →
      Extends machine type parent

theorem parent?_eq_some_iff : machine.parent? type = some parent ↔ machine.Extends type parent := by
  unfold parent?
  cases hfind : machine.program.find? type with
  | some definition =>
    refine ⟨.declared hfind, fun h => ?_⟩
    cases h with
    | declared hfind' hparent =>
      rw [hfind] at hfind'
      cases hfind'
      exact hparent
    | known hforeign => simp [Program.isLocal, hfind] at hforeign
  | none =>
    refine ⟨.known (by simp [Program.isLocal, hfind]), fun h => ?_⟩
    cases h with
    | declared hfind' => simp [hfind] at hfind'
    | known _ hparent => exact hparent

theorem reaches_parent?_iff :
    Reaches machine.parent? type target ↔ ReflTransGen machine.Extends type target := by
  have hstep : (fun child parent => parent ∈ machine.parent? child) = machine.Extends := by
    funext child parent
    exact propext parent?_eq_some_iff
  rw [Reaches, hstep]

/-- A class is one of `target` just if that is the root, or is reached from the class by what local
classes declare and the platform tells, also where these go round in circles. The walk always ends:
one step for each local class and each entry of the platform is enough, and a walk that is cut off
then answers the same. -/
theorem isInstanceOf_exactly_reachable (machine : Machine) (type target : TypeDescriptor) :
    (machine.isInstanceOf type target = true ↔
      target = .object ∨ ReflTransGen machine.Extends type target) ∧
    machine.isInstanceOf type target =
      (target.isObject || climbsWithin machine.parent? target
        (machine.program.size + machine.platform.parents.size) type) := by
  refine ⟨isInstanceOf_iff.trans (or_congr_right reaches_parent?_iff), ?_⟩
  have hlength : (machine.program.names ++ machine.platform.parents.keys).length ≤
      machine.program.size + machine.platform.parents.size := by
    simp [Program.names, Program.size, Table.keys, Table.size]
  rw [Bool.eq_iff_iff, isInstanceOf_iff, Bool.or_eq_true,
    climbsWithin_iff (fun _ _ h => mem_of_parent? h) hlength]
  simp [TypeDescriptor.isObject]

theorem isInstanceOf_self (machine : Machine) (type : TypeDescriptor) :
    machine.isInstanceOf type type = true :=
  isInstanceOf_iff.2 (.inr .refl)

/-- Of two types that a class is one of, one is one of the other. -/
theorem isInstanceOf_total {other : TypeDescriptor} (h : machine.isInstanceOf type target = true)
    (h' : machine.isInstanceOf type other = true) :
    machine.isInstanceOf target other = true ∨ machine.isInstanceOf other target = true := by
  rcases isInstanceOf_iff.1 h with rfl | h
  · exact .inr (isInstanceOf_iff.2 (.inl rfl))
  rcases isInstanceOf_iff.1 h' with rfl | h'
  · exact .inl (isInstanceOf_iff.2 (.inl rfl))
  exact (reaches_total h h').imp (fun hr => isInstanceOf_iff.2 (.inr hr))
    fun hr => isInstanceOf_iff.2 (.inr hr)

end Machine

/-! ## The local classes alone -/

namespace Program

open Hierarchy

variable {program : Program} {type target parent : TypeDescriptor}

/-- A local class extends the class that it declares, local or not. -/
def Extends (program : Program) (type parent : TypeDescriptor) : Prop :=
  ∃ definition, program.find? type = some definition ∧ definition.parent = some parent

theorem parent?_eq_some_iff : program.parent? type = some parent ↔ program.Extends type parent := by
  simp [parent?, Extends, Option.bind_eq_some_iff]

theorem mem_names_of_extends (h : program.Extends type parent) : type ∈ program.names := by
  obtain ⟨definition, hfind, -⟩ := h
  exact isLocal_iff_mem_names.1 (by simp [isLocal, hfind])

theorem reaches_parent?_iff :
    Reaches program.parent? type target ↔ ReflTransGen program.Extends type target := by
  have hstep : (fun child parent => parent ∈ program.parent? child) = program.Extends := by
    funext child parent
    exact propext parent?_eq_some_iff
  rw [Reaches, hstep]

/-- A walk of as many steps as there are local classes finds all that steps from local classes
reach: on a way that leaves no class twice only the last type need not be local. -/
theorem climbsWithin_size_iff {steps : Nat} (hsteps : program.size ≤ steps) :
    climbsWithin program.parent? target steps type = true ↔
      ReflTransGen program.Extends type target := by
  have hnames : program.names.length ≤ steps := by simpa [names, size] using hsteps
  rw [climbsWithin_iff (fun _ _ h => mem_names_of_extends (parent?_eq_some_iff.1 h)) hnames]
  exact reaches_parent?_iff

/-- What one local class extends, it extends on every machine. -/
theorem Extends.onMachine {machine : Machine} (h : machine.program.Extends type parent) :
    machine.Extends type parent := by
  obtain ⟨definition, hfind, hparent⟩ := h
  exact .declared hfind hparent

/-- A machine on which the platform tells no parents knows no more than its program. -/
theorem extends_of_silent {machine : Machine}
    (hsilent : ∀ other, machine.program.isLocal other = false →
      machine.platform.parents.get? other = none)
    (h : machine.Extends type parent) : machine.program.Extends type parent := by
  cases h with
  | declared hfind hparent => exact ⟨_, hfind, hparent⟩
  | known hforeign hparent => cases (hsilent type hforeign).symm.trans hparent

/-- As far as the local classes tell, a class is one of `target` just if that is the root, or is
reached from the class by steps each of which starts in a local class, also where these go round in
circles. The walk is not cut off too early: as many steps as there are local classes would do, and
more find nothing more. So a machine finds all that its program tells, whatever the platform adds,
and nothing else if the platform adds nothing. -/
theorem isInstanceOf_finds_local_ancestors (program : Program) (type target : TypeDescriptor) :
    (program.isInstanceOf type target = true ↔
      target = .object ∨ ReflTransGen program.Extends type target) ∧
    (∀ steps, program.size ≤ steps →
      (target.isObject || climbsWithin program.parent? target steps type) =
        program.isInstanceOf type target) ∧
    ∀ machine : Machine, machine.program = program →
      (program.isInstanceOf type target = true → machine.isInstanceOf type target = true) ∧
      ((∀ other, program.isLocal other = false → machine.platform.parents.get? other = none) →
        machine.isInstanceOf type target = program.isInstanceOf type target) := by
  have hwalk (steps : Nat) (hsteps : program.size ≤ steps) :
      (target.isObject || climbsWithin program.parent? target steps type) = true ↔
        target = .object ∨ ReflTransGen program.Extends type target := by
    rw [Bool.or_eq_true, climbsWithin_size_iff hsteps, TypeDescriptor.isObject, beq_iff_eq]
  have hprogram : program.isInstanceOf type target = true ↔
      target = .object ∨ ReflTransGen program.Extends type target :=
    hwalk (program.size + 1) (Nat.le_succ _)
  refine ⟨hprogram, fun steps hsteps => ?_, ?_⟩
  · rw [Bool.eq_iff_iff, hwalk steps hsteps, hprogram]
  rintro machine rfl
  have hmachine : machine.isInstanceOf type target = true ↔
      target = .object ∨ ReflTransGen machine.Extends type target :=
    Machine.isInstanceOf_iff.trans (or_congr_right Machine.reaches_parent?_iff)
  have hmore : machine.program.isInstanceOf type target = true →
      machine.isInstanceOf type target = true := by
    rw [hprogram, hmachine]
    exact Or.imp_right fun h => ReflTransGen.mono (fun _ _ => Extends.onMachine) _ _ h
  refine ⟨hmore, fun hsilent => Bool.eq_iff_iff.2 ⟨fun h => ?_, hmore⟩⟩
  rw [hprogram]
  refine (hmachine.1 h).imp_right fun h => ?_
  exact ReflTransGen.mono (fun _ _ => extends_of_silent hsilent) _ _ h

end Program

namespace Sample

/-- Two classes that extend each other, one that extends itself, and one that extends the first and
was put in the middle. -/
def circles : Program where
  definitions := [.withParent (.ofName (.named "LA;")) (some (.named "LB;")),
    .withParent (.ofName (.named "LD;")) (some (.named "LA;")),
    .withParent (.ofName (.named "LB;")) (some (.named "LA;")),
    .withParent (.ofName (.named "LE;")) (some (.named "LE;"))]
  distinct := by decide

/-- Two classes, the second of which extends one that is not local. -/
def ladder : Program where
  definitions := [.withParent (.ofName (.named "LA;")) (some (.named "LB;")),
    .withParent (.ofName (.named "LB;")) (some (.named "Lpkg/Outer;"))]
  distinct := by decide

end Sample

namespace Program

/-- Classes that go round in circles, on a machine whose platform tells nothing. -/
theorem isInstanceOf_finds_local_ancestors_circles :
    Sample.circles.isInstanceOf (.named "LD;") (.named "LB;") = true ∧
    (Machine.ofProgram Sample.circles).isInstanceOf (.named "LD;") (.named "LB;") = true ∧
    (Machine.ofProgram Sample.circles).isInstanceOf (.named "LE;") (.named "LB;") =
      Sample.circles.isInstanceOf (.named "LE;") (.named "LB;") := by
  have hfound := isInstanceOf_finds_local_ancestors Sample.circles (.named "LD;") (.named "LB;")
  have hlost := isInstanceOf_finds_local_ancestors Sample.circles (.named "LE;") (.named "LB;")
  have hwalk : Sample.circles.isInstanceOf (.named "LD;") (.named "LB;") = true := by decide
  exact ⟨hwalk, (hfound.2.2 (Machine.ofProgram Sample.circles) rfl).1 hwalk,
    (hlost.2.2 (Machine.ofProgram Sample.circles) rfl).2 fun _ _ => rfl⟩

/-- As many steps as there are local classes can be needed. -/
example :
    Sample.ladder.isInstanceOf (.named "LA;") (.named "Lpkg/Outer;") = true ∧
    Hierarchy.climbsWithin Sample.ladder.parent? (.named "Lpkg/Outer;") (Sample.ladder.size - 1)
      (.named "LA;") = false := by
  decide

end Program

end Dalvik
