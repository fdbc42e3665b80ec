import Dalvik.ClassDefinition
import Dalvik.Hierarchy

/-!
# Programs

A program is the classes under analysis, called local, each under its own name. Loading puts the
definitions into the program one after the other; one that displaces another of the same name
makes the load fail, and the failure names the smallest class that was displaced.
-/

namespace Dalvik

/-- The classes under analysis. No two have the same name. -/
structure Program where
  definitions : List ClassDefinition
  distinct : (definitions.map (·.name)).Nodup

namespace Program

/-- Puts a definition into a list: in the place of the one with its name, or at the end. -/
def place (definition : ClassDefinition) : List ClassDefinition → List ClassDefinition
  | [] => [definition]
  | other :: rest =>
    if other.name = definition.name then definition :: rest else other :: place definition rest

theorem mem_names_place {definition : ClassDefinition} {definitions : List ClassDefinition}
    {name : TypeDescriptor} :
    name ∈ (place definition definitions).map (·.name) ↔
      name = definition.name ∨ name ∈ definitions.map (·.name) := by
  induction definitions with
  | nil => simp [place]
  | cons other rest ih =>
    by_cases h : other.name = definition.name
    · simp [place, h]
    · simp only [place, h, if_false, List.map_cons, List.mem_cons, ih]
      grind

theorem nodup_place (definition : ClassDefinition) {definitions : List ClassDefinition}
    (h : (definitions.map (·.name)).Nodup) :
    ((place definition definitions).map (·.name)).Nodup := by
  induction definitions with
  | nil => simp [place]
  | cons other rest ih =>
    obtain ⟨hother, hrest⟩ := List.nodup_cons.1 h
    by_cases hn : other.name = definition.name
    · simp only [place, hn, if_true, List.map_cons]
      exact List.nodup_cons.2 ⟨hn ▸ hother, hrest⟩
    · simp only [place, hn, if_false, List.map_cons]
      refine List.nodup_cons.2 ⟨fun hm => ?_, ih hrest⟩
      exact (mem_names_place.1 hm).elim hn hother

def empty : Program := ⟨[], List.nodup_nil⟩

instance : Inhabited Program := ⟨empty⟩

def find? (program : Program) (type : TypeDescriptor) : Option ClassDefinition :=
  program.definitions.find? fun definition => definition.name = type

def isLocal (program : Program) (type : TypeDescriptor) : Bool :=
  (program.find? type).isSome

def names (program : Program) : List TypeDescriptor :=
  program.definitions.map (·.name)

def size (program : Program) : Nat :=
  program.definitions.length

/-- The program in which `definition` stands for its name. -/
def insert (program : Program) (definition : ClassDefinition) : Program :=
  ⟨place definition program.definitions, nodup_place definition program.distinct⟩

/-- A program that is being loaded, and the names of the definitions that were displaced. -/
structure Loading where
  program : Program
  displaced : List TypeDescriptor

def Loading.start : Loading := ⟨.empty, []⟩

def Loading.insert (loading : Loading) (definition : ClassDefinition) : Loading where
  program := loading.program.insert definition
  displaced :=
    if loading.program.isLocal definition.name then loading.displaced ++ [definition.name]
    else loading.displaced

/-- Loads definitions that land in this order. -/
def Loading.inOrder (order : List ClassDefinition) : Loading :=
  order.foldl Loading.insert .start

/-- What a load returns when the names of the displaced definitions are collected. -/
def Loading.result (loading : Loading) (reports : List TypeDescriptor) : Except Fault Program :=
  match TypeDescriptor.least? reports with
  | some type => .error (.duplicateClass type)
  | none => .ok loading.program

/-- Loads definitions of classes with different names. They land as they are given. -/
def load (definitions : List ClassDefinition) : Except Fault Program :=
  let loading := Loading.inOrder definitions
  loading.result loading.displaced

/-- The fields of a local class, in declared order. -/
def fieldsOf (program : Program) (type : TypeDescriptor) :
    Except Fault (List DeclaredField) :=
  match program.find? type with
  | some definition => .ok definition.fields
  | none => .error (.classNotLocal type)

def declaration? (program : Program) (field : FieldId) : Option DeclaredField :=
  (program.find? field.owner).bind fun definition => definition.declaration? field

/-- The class that a local class extends. -/
def parent? (program : Program) (type : TypeDescriptor) : Option TypeDescriptor :=
  (program.find? type).bind (·.parent)

/-- Whether a class is one of `target` as far as the local classes tell: every class is one of the
root, and of each type that is reached from it. The walk is cut off after one step more than there
are local classes, so that a cycle cannot keep it going. -/
def isInstanceOf (program : Program) (type target : TypeDescriptor) : Bool :=
  target.isObject || Hierarchy.climbsWithin program.parent? target (program.size + 1) type

theorem name_of_find? {program : Program} {type : TypeDescriptor}
    {definition : ClassDefinition} (h : program.find? type = some definition) :
    definition.name = type := by
  simpa using List.find?_some h

theorem isLocal_iff_mem_names {program : Program} {type : TypeDescriptor} :
    program.isLocal type = true ↔ type ∈ program.names := by
  simp [isLocal, find?, names]

end Program

end Dalvik
