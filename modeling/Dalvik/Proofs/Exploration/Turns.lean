import Dalvik.Proofs.Exploration.Mirrors

/-!
# Turns of a path

A path that has the same code before it in two worlds that mirror each other goes the same way in
both, turn after turn, and ends with the same result. While it does, it leaves alone all lineages
that existed before and to which none of its contexts belongs.
-/

namespace Dalvik

namespace Path

variable {β : Type} {machine : Machine} {fresh : Nat → Supply} {path path' : Path β}
  {world world' : World} {number : Nat}

/-! ## What a path does -/

/-- The paths have the same code before them, and their worlds mirror each other. -/
structure Mirrors (path path' : Path β) (world world' : World) : Prop where
  code : path'.code = path.code
  asked : path'.asked = path.asked
  worlds : World.Mirrors (path.inside world) (path'.inside world')

/-- No context of the path belongs to the lineage. -/
def Avoids (path : Path β) (number : Nat) (world : World) : Prop :=
  World.Vacant (path.inside world) number

/-- A request is answered in the same way in both worlds. -/
theorem serve_mirrors (h : World.Mirrors world world') (machine : Machine) (supply : Supply)
    (request : PathRequest) :
    (request.serve machine supply world').1 = (request.serve machine supply world).1 ∧
      World.Mirrors (request.serve machine supply world).2
        (request.serve machine supply world').2 := by
  cases request with
  | perform operation =>
    obtain ⟨hanswer, hmirrors⟩ := h.performWith machine supply operation
    exact ⟨congrArg PathRequest.told hanswer, hmirrors⟩
  | inspect name =>
    refine ⟨?_, h⟩
    simp only [PathRequest.serve]
    rcases h name with ⟨hname, hname'⟩ | ⟨context, context', hname, hname', htwins⟩
    · rw [hname, hname']
      rfl
    · rw [hname, hname', Option.map_some, Option.map_some, htwins.frame, htwins.lineage]

/-- A request leaves a lineage alone to which no context of the path belongs. -/
theorem serve_vacant (h : World.Vacant world number) (hnumber : number < world.lineages.length)
    (supply : Supply) (request : PathRequest) :
    World.Vacant (request.serve machine supply world).2 number ∧
      (request.serve machine supply world).2.lineage number = world.lineage number := by
  cases request with
  | perform operation => exact h.performWith hnumber machine supply operation
  | inspect name => exact ⟨h, rfl⟩

theorem length_le_serve (machine : Machine) (supply : Supply) (world : World)
    (request : PathRequest) :
    world.lineages.length ≤ (request.serve machine supply world).2.lineages.length := by
  cases request with
  | perform operation => exact World.length_le_performWith machine supply operation world
  | inspect name => exact Nat.le_refl _

theorem Mirrors.result? (h : Mirrors path path' world world') : path'.result? = path.result? := by
  unfold Path.result?
  rw [h.code]

theorem Mirrors.step (h : Mirrors path path' world world') (machine : Machine)
    (fresh : Nat → Supply) :
    Mirrors (path.step machine fresh world).1 (path'.step machine fresh world').1
      (path.step machine fresh world).2 (path'.step machine fresh world').2 := by
  obtain ⟨contexts, asked, code⟩ := path
  obtain ⟨contexts', asked', code'⟩ := path'
  obtain ⟨rfl, rfl, hworlds⟩ := h
  cases code' with
  | done | fail => exact ⟨rfl, rfl, hworlds⟩
  | ask request next =>
    obtain ⟨hanswer, hmirrors⟩ := serve_mirrors hworlds machine (fresh asked') request
    exact ⟨congrArg next hanswer, rfl, hmirrors⟩

theorem Avoids.step (h : path.Avoids number world) (hnumber : number < world.lineages.length)
    (machine : Machine) (fresh : Nat → Supply) :
    (path.step machine fresh world).1.Avoids number (path.step machine fresh world).2 ∧
      (path.step machine fresh world).2.lineage number = world.lineage number := by
  obtain ⟨contexts, asked, code⟩ := path
  cases code with
  | done | fail => exact ⟨h, rfl⟩
  | ask request next => exact serve_vacant h hnumber (fresh asked) request

theorem length_le_step (machine : Machine) (fresh : Nat → Supply) (path : Path β) (world : World) :
    world.lineages.length ≤ (path.step machine fresh world).2.lineages.length := by
  obtain ⟨contexts, asked, code⟩ := path
  cases code with
  | done | fail => exact Nat.le_refl _
  | ask request next =>
    exact length_le_serve machine (fresh asked) { world with contexts } request

/-! ## Turn after turn -/

theorem Mirrors.steps (h : Mirrors path path' world world') (machine : Machine)
    (fresh : Nat → Supply) (turns : Nat) :
    Mirrors (path.steps machine fresh world turns).1 (path'.steps machine fresh world' turns).1
      (path.steps machine fresh world turns).2 (path'.steps machine fresh world' turns).2 := by
  induction turns with
  | zero => exact h
  | succ turns ih => exact ih.step machine fresh

theorem length_le_steps (machine : Machine) (fresh : Nat → Supply) (path : Path β) (world : World)
    (turns : Nat) :
    world.lineages.length ≤ (path.steps machine fresh world turns).2.lineages.length := by
  induction turns with
  | zero => exact Nat.le_refl _
  | succ turns ih => exact Nat.le_trans ih (length_le_step machine fresh _ _)

theorem Avoids.steps (h : path.Avoids number world) (hnumber : number < world.lineages.length)
    (machine : Machine) (fresh : Nat → Supply) (turns : Nat) :
    (path.steps machine fresh world turns).1.Avoids number
        (path.steps machine fresh world turns).2 ∧
      (path.steps machine fresh world turns).2.lineage number = world.lineage number := by
  induction turns with
  | zero => exact ⟨h, rfl⟩
  | succ turns ih =>
    obtain ⟨havoids, hlineage⟩ := ih
    have hnext := Nat.lt_of_lt_of_le hnumber (length_le_steps machine fresh path world turns)
    obtain ⟨havoids', hlineage'⟩ := havoids.step hnext machine fresh
    exact ⟨havoids', hlineage'.trans hlineage⟩

/-- A path ends as it does in any world that mirrors its own. -/
theorem Mirrors.run (h : Mirrors path path' world world') (machine : Machine)
    (fresh : Nat → Supply) :
    (path'.run machine fresh world').1 = (path.run machine fresh world).1 := by
  obtain ⟨turns, hturns⟩ := exists_turns machine fresh path world
  obtain ⟨hresult, -⟩ := hturns turns (Nat.le_refl _)
  exact (result_of_steps ((h.steps machine fresh turns).result?.trans hresult)).symm

/-- What a path leaves alone while it runs. -/
theorem Avoids.run (h : path.Avoids number world) (hnumber : number < world.lineages.length)
    (machine : Machine) (fresh : Nat → Supply) :
    (path.run machine fresh world).2.lineage number = world.lineage number := by
  obtain ⟨turns, hturns⟩ := exists_turns machine fresh path world
  rw [← (hturns turns (Nat.le_refl _)).2]
  exact (h.steps hnumber machine fresh turns).2

theorem length_le_run (machine : Machine) (fresh : Nat → Supply) (path : Path β) (world : World) :
    world.lineages.length ≤ (path.run machine fresh world).2.lineages.length := by
  obtain ⟨turns, hturns⟩ := exists_turns machine fresh path world
  rw [← (hturns turns (Nat.le_refl _)).2]
  exact length_le_steps machine fresh path world turns

/-! ## Where paths begin -/

theorem get?_start {context found : Context} {name : String} (code : PathCode β)
    (h : (start code context).contexts.get? name = some found) : found = context := by
  have hget : (Table.empty.insert "root" context).get? name = some found := h
  by_cases hname : "root" = name
  · subst hname
    rw [Table.get?_insert_self] at hget
    exact (Option.some.inj hget).symm
  · rw [Table.get?_insert_ne _ hname] at hget
    cases hget

theorem avoids_start {context : Context} (h : context.lineage ≠ number) (code : PathCode β)
    (world : World) : (start code context).Avoids number world := by
  refine World.vacant_of_ne fun name found hfound => ?_
  obtain rfl := get?_start code hfound
  exact h

/-- A path begins in the same way in all worlds in which its lineage is in the same state. -/
theorem mirrors_start {context : Context} (code : PathCode β)
    (hplaced : context.lineage < world.lineages.length)
    (hlength : world.lineages.length ≤ world'.lineages.length)
    (hlineage : world'.lineage context.lineage = world.lineage context.lineage) :
    Mirrors (start code context) (start code context) world world' := by
  have hmirrors : World.Mirrors ((start code context).inside world)
      ((start code context).inside world) := by
    refine World.Mirrors.refl fun name found hfound => ?_
    obtain rfl := get?_start code hfound
    exact hplaced
  refine ⟨rfl, rfl, hmirrors.elsewhere rfl hlength fun number hnumber => ?_⟩
  obtain rfl : context.lineage = number :=
    by_contra fun hother => hnumber (avoids_start hother code world)
  exact hlineage

end Path

end Dalvik
