import Dalvik.Action

/-!
# Worlds

Many runs at once. A world holds lineages and the contexts that belong to them; a context is a
frame of one lineage. Contexts that are spawned from one another share their lineage, a fork gets
a copy of it, and joining hands over a result and nothing else. Contexts are known by names.
-/

namespace Dalvik

/-- A frame and the number of the lineage that it belongs to. -/
structure Context where
  frame : Frame
  lineage : Nat
deriving Inhabited

/-- Lineages, named contexts, and the record of what was reported. -/
structure World where
  lineages : List Lineage
  contexts : Table String Context
  log : List Event
  notes : List String
deriving Inhabited

namespace World

variable {α β : Type}

def empty : World := ⟨[], .empty, [], []⟩

def lineage (world : World) (number : Nat) : Lineage :=
  world.lineages.getD number default

/-- The identities that the next new lineage will give out: no other lineage has its number, and
number 0 is left to whoever makes values outside of all lineages. -/
def freshSupply (world : World) : Supply :=
  .ofSource (world.lineages.length + 1)

/-- Makes a context of a new lineage. -/
def openContext (config : Config) (registers : Registers) : StateM World Context := do
  let world ← get
  set { world with lineages := world.lineages ++ [Lineage.start world.freshSupply] }
  return ⟨Frame.root config registers, world.lineages.length⟩

/-- Runs code in a context. -/
def runIn (context : Context) (action : Run α) : StateM World (Except Failure α × Context) := do
  let world ← get
  let (result, execution) :=
    action (.ofFrame context.frame (world.lineage context.lineage))
  set { world with
    lineages := world.lineages.set context.lineage execution.lineage
    log := world.log ++ execution.log
    notes := world.notes ++ execution.notes }
  return (result, { context with frame := execution.frame })

/-- Makes the context of a call from a context; both share their lineage. -/
def spawn (context : Context) (method : String) (registers : Registers) :
    StateM World (Except Failure Context) := do
  let (callee, _) ← runIn context (Run.call method registers)
  return callee.map fun frame => { context with frame }

/-- Makes a copy of a context that belongs to a copy of its lineage. -/
def fork (context : Context) : StateM World Context := do
  let world ← get
  let state := world.lineage context.lineage
  set { world with
    lineages := world.lineages ++ [{ state with supply := world.freshSupply }]
    log := world.log ++ [Event.forked context.frame.depth state.initialized.length] }
  return { context with lineage := world.lineages.length }

/-- Hands the result of `callee` over to `context`. -/
def join (context callee : Context) : StateM World Context := do
  return (← runIn context (Run.join callee.frame)).2

/-- Visits contexts one after the other, each known by its position. -/
def visitAll (visit : Nat → Context → StateM World β) :
    Nat → List Context → StateM World (List β)
  | _, [] => return []
  | position, context :: rest => do
    let answer ← visit position context
    return answer :: (← visitAll visit (position + 1) rest)

/-- Explores paths: visits the context of each and collects the answers in the same order. -/
def explore (contexts : List Context) (visit : Nat → Context → StateM World β) :
    StateM World (List β) := do
  modify fun world => { world with log := world.log ++ [Event.exploring contexts.length] }
  visitAll visit 0 contexts

def context? (name : String) : StateM World (Option Context) :=
  return (← get).contexts.get? name

def setContext (name : String) (context : Context) : StateM World Unit :=
  modify fun world => { world with contexts := world.contexts.insert name context }

def dropContext (name : String) : StateM World Unit :=
  modify fun world => { world with contexts := world.contexts.erase name }

/-- Runs code in the context of a name; `none` if there is none. -/
def runNamed (name : String) (action : Run α) : StateM World (Option (Except Failure α)) := do
  match ← context? name with
  | none => return none
  | some context =>
    let (result, context) ← runIn context action
    setContext name context
    return some result

/-- Takes the record of what was reported. -/
def takeRecord : StateM World (List Event × List String) := do
  let world ← get
  set { world with log := [], notes := [] }
  return (world.log, world.notes)

inductive Operation where
  | openContext (name : String) (config : Config) (registers : Registers)
  | act (name : String) (action : Action)
  | spawn (parent child method : String) (registers : Registers)
  | fork (origin copy : String)
  | join (parent child : String)
  | drop (name : String)

/-- Does one thing. The answer is `none` if it needs a context that does not exist; then nothing
changes. Dropping needs none: to forget a name that stands for nothing changes nothing. -/
def perform (machine : Machine) : Operation → StateM World (Option (Except Failure Reply))
  | .openContext name config registers => do
    setContext name (← World.openContext config registers)
    return some (.ok .none)
  | .act name action => runNamed name (machine.act action)
  | .spawn parent child method registers => do
    match ← context? parent with
    | none => return none
    | some context =>
      match ← World.spawn context method registers with
      | .error failure => return some (.error failure)
      | .ok callee =>
        setContext child callee
        return some (.ok .none)
  | .fork origin copy => do
    match ← context? origin with
    | none => return none
    | some context =>
      setContext copy (← World.fork context)
      return some (.ok .none)
  | .join parent child => do
    match ← context? parent, ← context? child, decide (parent = child) with
    | some context, some callee, false =>
      dropContext child
      setContext parent (← World.join context callee)
      return some (.ok .none)
    | _, _, _ => return none
  | .drop name => do
    dropContext name
    return some (.ok .none)

/-- The world in which the context `root` of a machine waits, with no registers. Its record opens
with the number of classes that were loaded. -/
def start (machine : Machine) : World :=
  (perform machine (.openContext "root" machine.config .empty)
    { empty with log := [Event.loaded machine.program.size] }).2

def performAll (machine : Machine) (operations : List Operation) (world : World) : World :=
  operations.foldl (fun world operation => (perform machine operation world).2) world

/-- The world of a machine after these things were done in it. -/
def after (machine : Machine) (operations : List Operation) : World :=
  performAll machine operations (start machine)

end World

end Dalvik
