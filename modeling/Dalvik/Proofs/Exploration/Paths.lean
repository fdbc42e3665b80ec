import Dalvik.World

/-!
# Paths

The code of a path asks for operations on the contexts that it owns: the one that it was given,
which it knows as `root`, and those that it makes out of it. The operations are those of a world,
but the names are the path's own, so it cannot reach the context of another path. Paths take turns
in any order, where one turn answers one request.

Nothing depends on which identities a lineage gives out that a path makes, so they are a parameter:
a path that runs alone may be given the same ones as among others, where more lineages exist.
-/

namespace Dalvik

/-- What the code of a path may ask for: to do something with its contexts, or to look at one of
them and at its lineage. -/
inductive PathRequest where
  | perform (operation : World.Operation)
  | inspect (name : String)

/-- What is answered to a request; `none` if it needs a context that the path does not have. -/
abbrev PathRequest.Answer : PathRequest → Type
  | perform _ => Option Reply
  | inspect _ => Option (Frame × Lineage)

/-- The code that is run on a path. -/
abbrev PathCode (β : Type) := Script PathRequest PathRequest.Answer β

/-- A path that is being explored: the contexts that it owns, the number of requests that were
answered, and the code that is still to be run. -/
structure Path (β : Type) where
  contexts : Table String Context
  asked : Nat
  code : PathCode β

namespace World

/-- The world in which a lineage gives out these identities from now on. -/
def resupply (world : World) (number : Nat) (supply : Supply) : World :=
  { world with lineages := world.lineages.set number { world.lineage number with supply } }

/-- Does one thing, where a lineage that is made gives out these identities. -/
def performWith (machine : Machine) (supply : Supply) (operation : Operation) (world : World) :
    Option (Except Failure Reply) × World :=
  ((perform machine operation world).1,
    (perform machine operation world).2.resupply world.lineages.length supply)

end World

namespace Path

variable {β : Type}

/-- The path that begins in this context. -/
def start (code : PathCode β) (context : Context) : Path β :=
  ⟨Table.empty.insert "root" context, 0, code⟩

/-- The world as the path sees it. -/
def inside (path : Path β) (world : World) : World :=
  { world with contexts := path.contexts }

/-- The result of a path that has ended. -/
def result? (path : Path β) : Option (Except Failure β) :=
  match path.code with
  | .done result => some (.ok result)
  | .fail failure => some (.error failure)
  | .ask _ _ => none

end Path

/-- What the code is told about an operation. -/
def PathRequest.told : Option (Except Failure Reply) → Except Failure (Option Reply)
  | none => .ok none
  | some (.ok reply) => .ok (some reply)
  | some (.error failure) => .error failure

/-- The answer to a request, and the world after it. -/
def PathRequest.serve (machine : Machine) (supply : Supply) (world : World) :
    (request : PathRequest) → Except Failure request.Answer × World
  | .perform operation =>
    (told (World.performWith machine supply operation world).1,
      (World.performWith machine supply operation world).2)
  | .inspect name =>
    (.ok ((world.contexts.get? name).map fun context =>
      (context.frame, world.lineage context.lineage)), world)

namespace Path

variable {β : Type}

/-- One turn: a request of the path is answered, if it has one. Its `n`-th request makes lineages
that give out the identities `fresh n`. The contexts that the world has names for are left alone. -/
def step (machine : Machine) (fresh : Nat → Supply) (path : Path β) (world : World) :
    Path β × World :=
  match path.code with
  | .ask request next =>
    let out := request.serve machine (fresh path.asked) (path.inside world)
    (⟨out.2.contexts, path.asked + 1, next out.1⟩, { out.2 with contexts := world.contexts })
  | _ => (path, world)

/-- Some turns of one path, without any of another in between. -/
def steps (machine : Machine) (fresh : Nat → Supply) (path : Path β) (world : World) :
    Nat → Path β × World
  | 0 => (path, world)
  | turns + 1 =>
    let out := steps machine fresh path world turns
    out.1.step machine fresh out.2

/-- Runs code to its end. -/
def runCode (machine : Machine) (fresh : Nat → Supply) :
    PathCode β → Table String Context → Nat → World → Except Failure β × World
  | .done result, _, _, world => (.ok result, world)
  | .fail failure, _, _, world => (.error failure, world)
  | .ask request next, contexts, asked, world =>
    let out := request.serve machine (fresh asked) { world with contexts }
    runCode machine fresh (next out.1) out.2.contexts (asked + 1)
      { out.2 with contexts := world.contexts }

/-- Runs a path to its end. -/
def run (machine : Machine) (fresh : Nat → Supply) (path : Path β) (world : World) :
    Except Failure β × World :=
  runCode machine fresh path.code path.contexts path.asked world

end Path

namespace World

variable {β : Type}

/-- Visits a context by running the code of its position to the end. -/
def visit (machine : Machine) (fresh : Nat → Nat → Supply) (code : Nat → PathCode β)
    (position : Nat) (context : Context) : StateM World (Except Failure β) :=
  fun world => (Path.start (code position) context).run machine (fresh position) world

/-- One turn of the path in this position, if there is one. -/
def turn (machine : Machine) (fresh : Nat → Nat → Supply) (state : List (Path β) × World)
    (position : Nat) : List (Path β) × World :=
  match state.1[position]? with
  | none => state
  | some path =>
    let out := path.step machine (fresh position) state.2
    (state.1.set position out.1, out.2)

/-- Explores paths that take turns in the order of a schedule, which names positions. -/
def interleave (machine : Machine) (fresh : Nat → Nat → Supply) (code : Nat → PathCode β)
    (contexts : List Context) (schedule : List Nat) (world : World) : List (Path β) × World :=
  schedule.foldl (turn machine fresh)
    (contexts.mapIdx fun position => Path.start (code position), world)

end World

/-! ## Turns -/

namespace Path

variable {β : Type} {machine : Machine} {fresh : Nat → Supply} {path : Path β} {world : World}

theorem step_of_result {result : Except Failure β} (h : path.result? = some result) :
    path.step machine fresh world = (path, world) := by
  unfold result? at h
  unfold step
  split
  · rename_i hcode
    rw [hcode] at h
    cases h
  · rfl

theorem run_of_result {result : Except Failure β} (h : path.result? = some result) :
    path.run machine fresh world = (result, world) := by
  unfold result? at h
  unfold run
  split at h
  · rename_i hcode
    cases h
    rw [hcode]
    rfl
  · rename_i hcode
    cases h
    rw [hcode]
    rfl
  · cases h

/-- To run a path is to let it have a turn and to run what is left. -/
theorem run_step (path : Path β) (world : World) :
    path.run machine fresh world =
      (path.step machine fresh world).1.run machine fresh (path.step machine fresh world).2 := by
  obtain ⟨contexts, asked, code⟩ := path
  cases code <;> rfl

theorem run_steps (path : Path β) (world : World) (turns : Nat) :
    path.run machine fresh world =
      (path.steps machine fresh world turns).1.run machine fresh
        (path.steps machine fresh world turns).2 := by
  induction turns with
  | zero => rfl
  | succ turns ih => rw [ih, run_step]; rfl

/-- A path that has ended has the result that it has when it is run. -/
theorem result_of_steps {turns : Nat} {result : Except Failure β}
    (h : (path.steps machine fresh world turns).1.result? = some result) :
    result = (path.run machine fresh world).1 := by
  rw [run_steps path world turns, run_of_result h]

/-- The first turn may be taken out in front of the others. -/
theorem steps_succ (path : Path β) (world : World) (turns : Nat) :
    path.steps machine fresh world (turns + 1) =
      (path.step machine fresh world).1.steps machine fresh (path.step machine fresh world).2
        turns := by
  induction turns with
  | zero => rfl
  | succ turns ih =>
    rw [steps, ih]
    rfl

/-- A path that has ended stays as it is. -/
theorem steps_of_result {result : Except Failure β} (h : path.result? = some result)
    (turns : Nat) : path.steps machine fresh world turns = (path, world) := by
  induction turns with
  | zero => rfl
  | succ turns ih => rw [steps, ih, step_of_result h]

/-- Every path ends after some turns, and then as it does when it is run. -/
theorem exists_turns (machine : Machine) (fresh : Nat → Supply) (path : Path β) (world : World) :
    ∃ turns, ∀ more, turns ≤ more →
      (path.steps machine fresh world more).1.result? =
          some (path.run machine fresh world).1 ∧
        (path.steps machine fresh world more).2 = (path.run machine fresh world).2 := by
  obtain ⟨contexts, asked, code⟩ := path
  induction code generalizing contexts asked world with
  | done result =>
    have hresult : (Path.mk contexts asked (.done result)).result? = some (.ok result) := rfl
    refine ⟨0, fun more _ => ?_⟩
    rw [steps_of_result hresult, run_of_result hresult]
    exact ⟨hresult, rfl⟩
  | fail failure =>
    have hresult : (Path.mk contexts asked (.fail failure : PathCode β)).result? =
      some (.error failure) := rfl
    refine ⟨0, fun more _ => ?_⟩
    rw [steps_of_result hresult, run_of_result hresult]
    exact ⟨hresult, rfl⟩
  | ask request next ih =>
    obtain ⟨turns, hturns⟩ := ih _ _ _ _
    refine ⟨turns + 1, fun more hmore => ?_⟩
    obtain ⟨rest, rfl⟩ := Nat.exists_eq_add_of_le' hmore
    rw [← Nat.add_assoc, steps_succ, run_step]
    exact hturns (rest + turns) (Nat.le_add_left turns rest)

end Path

end Dalvik
