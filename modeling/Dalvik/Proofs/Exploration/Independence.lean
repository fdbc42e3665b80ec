import Dalvik.Proofs.Exploration.Turns
import Dalvik.Proofs.Initialization.Effects
import Mathlib.Data.List.Induction

/-!
# Independence of paths

Paths that are explored together end as each of them does alone, in whatever order they take their
turns, if no two of them begin in contexts of one lineage. Each path then has lineages of its own:
those that its contexts belong to, since a turn of another path reaches only the lineages of that
one and new ones.
-/

namespace Dalvik

open Run

namespace World

variable {β : Type} {machine : Machine} {world later : World} {contexts : List Context}
  {fresh : Nat → Nat → Supply} {code : Nat → PathCode β}

/-! ## One path after the other -/

/-- What is visited later ends as it would at the beginning. -/
theorem visitAll_eq (machine : Machine) (fresh : Nat → Nat → Supply) (code : Nat → PathCode β)
    (hplaced : ∀ context ∈ contexts, context.lineage < world.lineages.length)
    (hapart : (contexts.map (·.lineage)).Nodup)
    (hlength : world.lineages.length ≤ later.lineages.length)
    (hlineages : ∀ context ∈ contexts,
      later.lineage context.lineage = world.lineage context.lineage) (first : Nat) :
    (visitAll (visit machine fresh code) first contexts later).1 =
      contexts.mapIdx fun position context =>
        (visit machine fresh code (first + position) context world).1 := by
  induction contexts generalizing later first with
  | nil => rfl
  | cons context rest ih =>
    rw [List.map_cons, List.nodup_cons] at hapart
    obtain ⟨hnew, hrest⟩ := hapart
    have hmirrors := Path.mirrors_start (code first) (hplaced context List.mem_cons_self) hlength
      (hlineages context List.mem_cons_self)
    have hnext (other : Context) (hother : other ∈ rest) :
        (visit machine fresh code first context later).2.lineage other.lineage =
          world.lineage other.lineage := by
      have hne : context.lineage ≠ other.lineage := fun hsame =>
        hnew (hsame ▸ List.mem_map_of_mem hother)
      have hleft := (Path.avoids_start hne (code first) later).run
        (Nat.lt_of_lt_of_le (hplaced other (List.mem_cons_of_mem _ hother)) hlength) machine
        (fresh first)
      exact hleft.trans (hlineages other (List.mem_cons_of_mem _ hother))
    have hgrown : world.lineages.length ≤
        (visit machine fresh code first context later).2.lineages.length :=
      Nat.le_trans hlength (Path.length_le_run machine (fresh first) _ later)
    have hanswers := ih (fun other hother => hplaced other (List.mem_cons_of_mem _ hother)) hrest
      hgrown hnext (first + 1)
    rw [List.mapIdx_cons]
    refine congrArg₂ List.cons (hmirrors.run machine (fresh first)) (hanswers.trans ?_)
    simp only [Nat.add_assoc, Nat.add_comm 1]

/-! ## Turns in any order -/

/-- After the turns of this schedule, each path is where it would be alone after as many turns, and
no lineage belongs to contexts of two paths. -/
structure Separated (machine : Machine) (fresh : Nat → Nat → Supply) (code : Nat → PathCode β)
    (contexts : List Context) (world : World) (schedule : List Nat)
    (state : List (Path β) × World) : Prop where
  length : state.1.length = contexts.length
  alone {position : Nat} {path : Path β} : state.1[position]? = some path →
    ∃ context, contexts[position]? = some context ∧ Path.Mirrors
      ((Path.start (code position) context).steps machine (fresh position) world
        (schedule.count position)).1 path
      ((Path.start (code position) context).steps machine (fresh position) world
        (schedule.count position)).2 state.2
  apart {position other : Nat} {path path' : Path β} : position ≠ other →
    state.1[position]? = some path → state.1[other]? = some path' →
    ∀ number, path.Avoids number state.2 ∨ path'.Avoids number state.2

variable {schedule : List Nat} {state : List (Path β) × World} {position : Nat} {path : Path β}

theorem turn_of_none (h : state.1[position]? = none) :
    turn machine fresh state position = state := by
  unfold turn
  rw [h]

theorem turn_of_some (h : state.1[position]? = some path) :
    turn machine fresh state position =
      (state.1.set position (path.step machine (fresh position) state.2).1,
        (path.step machine (fresh position) state.2).2) := by
  unfold turn
  rw [h]

/-- The contexts of a path belong to lineages that exist. -/
theorem Separated.avoids_beyond (h : Separated machine fresh code contexts world schedule state)
    (hpath : state.1[position]? = some path) {number : Nat}
    (hnumber : state.2.lineages.length ≤ number) : path.Avoids number state.2 := by
  obtain ⟨context, -, hmirrors⟩ := h.alone hpath
  exact by_contra fun hvacant => Nat.not_lt_of_le hnumber (hmirrors.worlds.placed hvacant)

/-- A turn of one path does not concern the others. -/
theorem Separated.elsewhere {other : Nat} {path' : Path β}
    (h : Separated machine fresh code contexts world schedule state) (hne : position ≠ other)
    (hpath : state.1[position]? = some path) (hother : state.1[other]? = some path')
    (supply : Nat → Supply) :
    ∃ context, contexts[position]? = some context ∧ Path.Mirrors
      ((Path.start (code position) context).steps machine (fresh position) world
        (schedule.count position)).1 path
      ((Path.start (code position) context).steps machine (fresh position) world
        (schedule.count position)).2 (path'.step machine supply state.2).2 := by
  obtain ⟨context, hcontext, hmirrors⟩ := h.alone hpath
  refine ⟨context, hcontext, hmirrors.code, hmirrors.asked, ?_⟩
  refine hmirrors.worlds.elsewhere rfl (Path.length_le_step machine supply path' state.2)
    fun number hnumber => ?_
  have havoids := (h.apart hne hpath hother number).resolve_left hnumber
  exact (havoids.step (hmirrors.worlds.placed hnumber) machine supply).2

theorem Separated.apart_step {other : Nat} {path' : Path β}
    (h : Separated machine fresh code contexts world schedule state) (hne : position ≠ other)
    (hpath : state.1[position]? = some path) (hother : state.1[other]? = some path')
    (supply : Nat → Supply) (number : Nat) :
    (path.step machine supply state.2).1.Avoids number (path.step machine supply state.2).2 ∨
      path'.Avoids number state.2 := by
  rcases Nat.lt_or_ge number state.2.lineages.length with hnumber | hnumber
  · exact (h.apart hne hpath hother number).imp_left fun havoids =>
      (havoids.step hnumber machine supply).1
  · exact .inr (h.avoids_beyond hother hnumber)

/-- After a turn, a path is where it was, or is the one that had the turn. -/
theorem getElem?_turn {other : Nat} {later : Path β} (hpath : state.1[position]? = some path)
    (h : (turn machine fresh state position).1[other]? = some later) :
    position = other ∧ later = (path.step machine (fresh position) state.2).1 ∨
      position ≠ other ∧ state.1[other]? = some later := by
  rw [turn_of_some hpath] at h
  by_cases hsame : position = other
  · subst hsame
    cases h.symm.trans (List.getElem?_set_self (List.getElem?_eq_some_iff.1 hpath).1)
    exact .inl ⟨rfl, rfl⟩
  · exact .inr ⟨hsame, (List.getElem?_set_ne hsame).symm.trans h⟩

theorem Separated.turn (h : Separated machine fresh code contexts world schedule state)
    (position : Nat) :
    Separated machine fresh code contexts world (schedule ++ [position])
      (turn machine fresh state position) := by
  have hcount (other : Nat) (hother : position ≠ other) :
      (schedule ++ [position]).count other = schedule.count other := by
    simp [hother]
  have hself : (schedule ++ [position]).count position = schedule.count position + 1 := by simp
  cases hpath : state.1[position]? with
  | none =>
    rw [turn_of_none hpath]
    refine ⟨h.length, fun {other path} hother => ?_, h.apart⟩
    have hne : position ≠ other := by
      rintro rfl
      cases hpath.symm.trans hother
    rw [hcount other hne]
    exact h.alone hother
  | some path =>
    have hturn : World.turn machine fresh state position = _ := turn_of_some hpath
    have hafter : (World.turn machine fresh state position).2 = _ := congrArg Prod.snd hturn
    refine ⟨?_, fun {other later} hother => ?_,
      fun {first second later later'} hne hfirst hsecond number => ?_⟩
    · rw [hturn, List.length_set]
      exact h.length
    · rw [hafter]
      rcases getElem?_turn hpath hother with ⟨rfl, rfl⟩ | ⟨hne, hother⟩
      · obtain ⟨context, hcontext, hmirrors⟩ := h.alone hpath
        rw [hself]
        exact ⟨context, hcontext, hmirrors.step machine (fresh position)⟩
      · rw [hcount other hne]
        exact h.elsewhere hne.symm hother hpath (fresh position)
    · rw [hafter]
      rcases getElem?_turn hpath hfirst with ⟨rfl, rfl⟩ | ⟨hfirst_ne, hfirst⟩
      · have hsecond := ((getElem?_turn hpath hsecond).resolve_left fun hsame => hne hsame.1).2
        exact h.apart_step hne hpath hsecond (fresh position) number
      · rcases getElem?_turn hpath hsecond with ⟨rfl, rfl⟩ | ⟨-, hsecond⟩
        · exact (h.apart_step hne.symm hpath hfirst (fresh position) number).symm
        · exact h.apart hne hfirst hsecond number

theorem separated_start (hplaced : ∀ context ∈ contexts, context.lineage < world.lineages.length)
    (hapart : (contexts.map (·.lineage)).Nodup) (machine : Machine) (fresh : Nat → Nat → Supply)
    (code : Nat → PathCode β) :
    Separated machine fresh code contexts world []
      (contexts.mapIdx fun position => Path.start (code position), world) := by
  have hstart {position : Nat} {path : Path β}
      (h : (contexts.mapIdx fun position => Path.start (code position))[position]? = some path) :
      ∃ context, contexts[position]? = some context ∧ path = Path.start (code position) context := by
    rw [List.getElem?_mapIdx, Option.map_eq_some_iff] at h
    obtain ⟨context, hcontext, rfl⟩ := h
    exact ⟨context, hcontext, rfl⟩
  refine ⟨List.length_mapIdx, fun hpath => ?_,
    fun {first second path path'} hne hfirst hsecond number => ?_⟩
  · obtain ⟨context, hcontext, rfl⟩ := hstart hpath
    exact ⟨context, hcontext, Path.mirrors_start _ (hplaced context (List.mem_of_getElem? hcontext))
      (Nat.le_refl _) rfl⟩
  · obtain ⟨context, hcontext, rfl⟩ := hstart hfirst
    obtain ⟨context', hcontext', rfl⟩ := hstart hsecond
    by_cases hown : context.lineage = number
    · refine .inr (Path.avoids_start (fun hown' => hne ?_) _ world)
      have hlt : first < (contexts.map (·.lineage)).length := by
        rw [List.length_map]
        exact (List.getElem?_eq_some_iff.1 hcontext).1
      refine (List.getElem?_inj hlt hapart).1 ?_
      rw [List.getElem?_map, List.getElem?_map, hcontext, hcontext', Option.map_some,
        Option.map_some, hown, hown']
    · exact .inl (Path.avoids_start hown _ world)

theorem separated_interleave
    (hplaced : ∀ context ∈ contexts, context.lineage < world.lineages.length)
    (hapart : (contexts.map (·.lineage)).Nodup) (machine : Machine) (fresh : Nat → Nat → Supply)
    (code : Nat → PathCode β) (schedule : List Nat) :
    Separated machine fresh code contexts world schedule
      (interleave machine fresh code contexts schedule world) := by
  induction schedule using List.reverseRecOn with
  | nil => exact separated_start hplaced hapart machine fresh code
  | append_singleton schedule position ih =>
    unfold interleave
    rw [List.foldl_append]
    exact ih.turn position

/-! ## Independence -/

/-- Paths that are explored together do not influence each other. -/
structure Independent (machine : Machine) (contexts : List Context) (world : World) : Prop where
  /-- There is one answer for each context, in the order of these, and it is the one that the path
  has alone. -/
  explored {β : Type} (fresh : Nat → Nat → Supply) (code : Nat → PathCode β) :
    (explore contexts (visit machine fresh code) world).1 =
      contexts.mapIdx fun position context => (visit machine fresh code position context world).1
  /-- In whatever order the paths take turns, one that has ended has the result that it has alone;
  and each has ended after a number of turns that does not depend on the order. -/
  interleaved {β : Type} (fresh : Nat → Nat → Supply) (code : Nat → PathCode β) {position : Nat}
      {context : Context} : contexts[position]? = some context →
    ∃ turns, ∀ schedule, ∃ path,
      (interleave machine fresh code contexts schedule world).1[position]? = some path ∧
      (∀ result, path.result? = some result →
        result = (visit machine fresh code position context world).1) ∧
      (turns ≤ schedule.count position →
        path.result? = some (visit machine fresh code position context world).1)

theorem independent_of_nodup
    (hplaced : ∀ context ∈ contexts, context.lineage < world.lineages.length)
    (hapart : (contexts.map (·.lineage)).Nodup) (machine : Machine) :
    Independent machine contexts world := by
  refine ⟨fun {β} fresh code => ?_, fun {β} fresh code position context hcontext => ?_⟩
  · have hlength : world.lineages.length ≤ (lineages { world with
        log := world.log ++ [Event.exploring contexts.length] }).length := Nat.le_refl _
    have hanswers := visitAll_eq machine fresh code hplaced hapart hlength (fun _ _ => rfl) 0
    simp only [Nat.zero_add] at hanswers
    exact hanswers
  · obtain ⟨turns, hturns⟩ := Path.exists_turns machine (fresh position)
      (Path.start (code position) context) world
    refine ⟨turns, fun schedule => ?_⟩
    have hseparated := separated_interleave hplaced hapart machine fresh code schedule
    have hlt : position <
        (interleave machine fresh code contexts schedule world).1.length := by
      rw [hseparated.length]
      exact (List.getElem?_eq_some_iff.1 hcontext).1
    obtain ⟨found, hfound, hmirrors⟩ := hseparated.alone (List.getElem?_eq_getElem hlt)
    cases hfound.symm.trans hcontext
    refine ⟨_, List.getElem?_eq_getElem hlt, fun result hended => ?_, fun hmore => ?_⟩
    · exact Path.result_of_steps (hmirrors.result?.symm.trans hended)
    · exact hmirrors.result?.trans (hturns _ hmore).1

/-! ## Paths of one lineage -/

/-- Some turns of one path in a row. -/
theorem foldl_turn_replicate {state : List (Path β) × World} {position : Nat} {path : Path β}
    (hpath : state.1[position]? = some path) (turns : Nat) :
    (List.replicate turns position).foldl (turn machine fresh) state =
      (state.1.set position (path.steps machine (fresh position) state.2 turns).1,
        (path.steps machine (fresh position) state.2 turns).2) := by
  obtain ⟨hlt, hget⟩ := List.getElem?_eq_some_iff.1 hpath
  induction turns with
  | zero =>
    subst hget
    exact Prod.ext (List.set_getElem_self hlt).symm rfl
  | succ turns ih =>
    rw [List.replicate_succ', List.foldl_append, ih, List.foldl_cons, List.foldl_nil,
      turn_of_some (List.getElem?_set_self hlt), List.set_set]
    rfl

end World

/-- Initializes a class, and tells whether it was initialized before. -/
def PathCode.probe (type : TypeDescriptor) : PathCode Bool :=
  .ask (.perform (.act "root" (.isInitialized type))) fun before =>
    .ask (.perform (.act "root" (.initializeOnce type))) fun _ =>
      .done <| match before with
        | .ok (some (.truth marked)) => marked
        | _ => false

namespace Path

/-- A turn in which the path acts in one of its contexts. -/
theorem step_act {contexts : Table String Context} {name : String} {context : Context}
    (hname : contexts.get? name = some context) (machine : Machine) (fresh : Nat → Supply)
    (asked : Nat) (action : Action) (next : Except Failure (Option Reply) → PathCode β)
    (world : World) :
    step machine fresh ⟨contexts, asked, .ask (.perform (.act name action)) next⟩ world =
      let out := World.leave context
        (machine.act action (.ofFrame context.frame (world.lineage context.lineage))) world
      (⟨contexts.insert name out.1.2, asked + 1, next (PathRequest.told (some out.1.1))⟩,
        out.2) := by
  have hinside : (inside ⟨contexts, asked, .ask (.perform (.act name action)) next⟩
      world).contexts.get? name = some context := hname
  have hact : World.perform machine _ _ = _ := World.perform_act hinside action
  simp only [step, PathRequest.serve, World.performWith, hact]
  rw [World.resupply_of_le]
  · rfl
  · exact Nat.le_of_eq (World.length_runIn context (machine.act action) { world with contexts })

/-- A local class is marked once a context was to initialize it. -/
theorem marked_initializeOnce {machine : Machine} {type : TypeDescriptor}
    (hlocal : machine.program.isLocal type = true) (e : Execution) :
    (machine.act (.initializeOnce type) e).2.lineage.isInitialized type = true := by
  have hmarked := StaticFields.marked_of_initializeOnce hlocal e
  show ((machine.statics.initializeOnce type >>= _) e).2.lineage.isInitialized type = true
  rw [bind_apply]
  generalize machine.statics.initializeOnce type e = out at hmarked
  obtain ⟨_ | _, later⟩ := out <;> exact hmarked

theorem steps_probe (machine : Machine) (fresh : Nat → Supply) (context : Context) (world : World)
    {type : TypeDescriptor} (hlocal : machine.program.isLocal type = true)
    (hplaced : context.lineage < world.lineages.length) :
    ((start (.probe type) context).steps machine fresh world 2).1.result? =
        some (.ok ((world.lineage context.lineage).isInitialized type)) ∧
      (((start (.probe type) context).steps machine fresh world 2).2.lineage
        context.lineage).isInitialized type = true := by
  have hroot (contexts : Table String Context) (context : Context) :
      (contexts.insert "root" context).get? "root" = some context := Table.get?_insert_self ..
  unfold start PathCode.probe
  rw [steps, steps, steps]
  simp only [step_act (hroot _ _)]
  refine ⟨rfl, ?_⟩
  have hlength := World.length_runIn context (machine.act (.isInitialized type)) world
  rw [World.lineage_of_set rfl (Nat.lt_of_lt_of_eq hplaced hlength.symm), if_pos rfl]
  exact marked_initializeOnce hlocal _

end Path

namespace World

variable {machine : Machine} {contexts : List Context} {world : World} {type : TypeDescriptor}

/-- If the second of two paths of one lineage has its turns after the first, it finds marked what
the first has marked. -/
theorem probe_after {first second : Nat} {context context' : Context} (hlt : first < second)
    (hfirst : contexts[first]? = some context) (hsecond : contexts[second]? = some context')
    (hsame : context.lineage = context'.lineage)
    (hplaced : context'.lineage < world.lineages.length)
    (hlocal : machine.program.isLocal type = true) (fresh : Nat → Nat → Supply) :
    ∃ path, (interleave machine fresh (fun _ => .probe type) contexts
        (List.replicate 2 first ++ List.replicate 2 second) world).1[second]? = some path ∧
      path.result? = some (.ok true) := by
  have hstart {position : Nat} {context : Context} (h : contexts[position]? = some context) :
      (contexts.mapIdx fun _ => Path.start (.probe type))[position]? =
        some (Path.start (.probe type) context) := by
    rw [List.getElem?_mapIdx, h]
    rfl
  -- The first path has its turns.
  have hturns : (List.replicate 2 first).foldl (turn machine fresh)
      (contexts.mapIdx fun _ => Path.start (.probe type), world) = _ :=
    foldl_turn_replicate (hstart hfirst) 2
  have hmarked := (Path.steps_probe machine (fresh first) context world hlocal
    (hsame ▸ hplaced)).2
  have hgrown := Path.length_le_steps machine (fresh first) (Path.start (.probe type) context)
    world 2
  rw [hsame] at hmarked
  unfold interleave
  rw [List.foldl_append, hturns]
  generalize (Path.start (.probe type) context).steps machine (fresh first) world 2 = out
    at hmarked hgrown
  -- Then the second has its own.
  have hpath : ((contexts.mapIdx fun _ => Path.start (.probe type)).set first out.1)[second]? =
      some (Path.start (.probe type) context') := by
    rw [List.getElem?_set_ne (Nat.ne_of_lt hlt), hstart hsecond]
  have hresult := (Path.steps_probe machine (fresh second) context' out.2 hlocal
    (Nat.lt_of_lt_of_le hplaced hgrown)).1
  rw [hmarked] at hresult
  rw [foldl_turn_replicate hpath]
  exact ⟨_, List.getElem?_set_self (List.getElem?_eq_some_iff.1 hpath).1, hresult⟩

/-- As long as there is a class to initialize, paths of one lineage are not independent. -/
theorem nodup_of_independent
    (hplaced : ∀ context ∈ contexts, context.lineage < world.lineages.length)
    (hlocal : machine.program.isLocal type = true)
    (hunmarked : ∀ context ∈ contexts,
      (world.lineage context.lineage).isInitialized type = false)
    (h : Independent machine contexts world) : (contexts.map (·.lineage)).Nodup := by
  refine List.nodup_iff_getElem?_ne_getElem?.2 fun first second hlt hsecond hsame => ?_
  rw [List.length_map] at hsecond
  rw [List.getElem?_map, List.getElem?_map, List.getElem?_eq_getElem (Nat.lt_trans hlt hsecond),
    List.getElem?_eq_getElem hsecond] at hsame
  have hmem := List.getElem_mem hsecond
  have hget := List.getElem?_eq_getElem hsecond
  let fresh : Nat → Nat → Supply := fun _ _ => world.freshSupply
  obtain ⟨path, hpath, hresult⟩ := probe_after hlt
    (List.getElem?_eq_getElem (Nat.lt_trans hlt hsecond)) hget (Option.some.inj hsame)
    (hplaced _ hmem) hlocal fresh
  have halone := (Path.steps_probe machine (fresh second) contexts[second] world hlocal
    (hplaced _ hmem)).1
  rw [hunmarked _ hmem] at halone
  obtain ⟨_, hturns⟩ := h.interleaved fresh (fun _ => .probe type) hget
  obtain ⟨found, hfound, hended, -⟩ := hturns _
  cases hfound.symm.trans hpath
  cases (hended _ hresult).trans (Path.result_of_steps halone).symm

/-- Paths that are explored together do not influence each other, in whatever order they take their
turns, if no two of them begin in contexts of one lineage. As long as there is a class that is not
initialized in any of their lineages, they are independent in no other case. -/
theorem explored_paths_independent
    (hplaced : ∀ context ∈ contexts, context.lineage < world.lineages.length) :
    ((contexts.map (·.lineage)).Nodup → Independent machine contexts world) ∧
      ∀ type, machine.program.isLocal type = true →
        (∀ context ∈ contexts, (world.lineage context.lineage).isInitialized type = false) →
        Independent machine contexts world → (contexts.map (·.lineage)).Nodup :=
  ⟨fun hapart => independent_of_nodup hplaced hapart machine,
    fun _ hlocal hunmarked => nodup_of_independent hplaced hlocal hunmarked⟩

end World

namespace Sample

/-- A world with a context, a fork of it and a fork of that one. -/
def forked : World := .after (.ofProgram program) [.fork "root" "copy", .fork "copy" "second"]

/-- A world with a context and another that was spawned from it. -/
def spawned : World := .after (.ofProgram program) [.spawn "root" "child" "LA;->f()V" .empty]

/-- Reads `count` and then assigns 7 to it. -/
def exchange : PathCode (Option Reply) := do
  let found ← Script.request (.perform (.act "root" (.readStatic count)))
  let _ ← Script.request (.perform (.act "root" (.writeStatic count (.int 7))))
  return found

/-- The answer of code that reads `count`. -/
def found (content : Int32) : Except Failure (Option Reply) :=
  .ok (some (.value (some (.int content))))

end Sample

namespace World

/-- A context may be explored together with its forks. -/
theorem explored_paths_independent_forked :
    (∀ context ∈ Sample.forked.contexts.entries.map Prod.snd,
      context.lineage < Sample.forked.lineages.length) ∧
    Sample.forked.contexts.keys = ["root", "copy", "second"] ∧
    Independent (.ofProgram Sample.program) (Sample.forked.contexts.entries.map Prod.snd)
      Sample.forked := by
  have hplaced : ∀ context ∈ Sample.forked.contexts.entries.map Prod.snd,
      context.lineage < Sample.forked.lineages.length := by decide
  exact ⟨hplaced, rfl, (explored_paths_independent hplaced).1 (by decide)⟩

/-- If a context is explored together with a child of it, the child reads what its parent has
assigned before. -/
theorem spawned_paths_interfere :
    let machine := Machine.ofProgram Sample.program
    let contexts := Sample.spawned.contexts.entries.map Prod.snd
    let visit := visit machine (fun _ _ => Sample.spawned.freshSupply) fun _ => Sample.exchange
    (explore contexts visit Sample.spawned).1 = [Sample.found 5, Sample.found 7] ∧
      (contexts.mapIdx fun position context => (visit position context Sample.spawned).1) =
        [Sample.found 5, Sample.found 5] ∧
      ¬ Independent machine contexts Sample.spawned := by
  refine ⟨rfl, List.mapIdx_eq_zipIdx_map.trans rfl, fun h => ?_⟩
  have hexplored := h.explored (fun _ _ => Sample.spawned.freshSupply) fun _ => Sample.exchange
  have hlast : Sample.found 7 = Sample.found 5 := congrArg (·.getLastD (Sample.found 0)) hexplored
  cases hlast

end World

end Dalvik
