import Dalvik.TypeDescriptor.Basic

/-!
# Class hierarchies

A hierarchy gives some types a parent. It may have cycles, so a walk upwards has to be cut off. Two
walks do so in different ways and find the same types: one takes a limited number of steps, which is
enough if there are no more types with a parent, the other leaves each of these types only once.
-/

namespace Dalvik.Hierarchy

/-- Whether `target` is `type` or is reached from it by at most `steps` steps to a parent. -/
def climbsWithin (parent? : TypeDescriptor → Option TypeDescriptor) (target : TypeDescriptor) :
    Nat → TypeDescriptor → Bool
  | 0, type => type == target
  | steps + 1, type =>
    type == target ||
      match parent? type with
      | none => false
      | some parent => climbsWithin parent? target steps parent

/-- The types other than `type`. -/
def others (type : TypeDescriptor) (types : List TypeDescriptor) : List TypeDescriptor :=
  types.filter fun other => other ≠ type

theorem length_others_lt {type : TypeDescriptor} {types : List TypeDescriptor}
    (h : type ∈ types) : (others type types).length < types.length :=
  List.length_filter_lt_length_iff_exists.2 ⟨type, h, by simp⟩

/-- Whether `target` is `type` or is reached from it by steps that start in `unvisited`, no two of
them in the same type. -/
@[semireducible]
def climbsThrough (parent? : TypeDescriptor → Option TypeDescriptor) (target : TypeDescriptor)
    (unvisited : List TypeDescriptor) (type : TypeDescriptor) : Bool :=
  type == target ||
    if type ∈ unvisited then
      match parent? type with
      | none => false
      | some parent => climbsThrough parent? target (others type unvisited) parent
    else false
termination_by unvisited.length
decreasing_by exact length_others_lt (by assumption)

end Dalvik.Hierarchy
