import Dalvik.TypeDescriptor.Basic
import Mathlib.Data.List.Perm.Basic

/-!
# The order of types

The order of types is linear: of two different types one comes before the other. So the least of
some types is determined by which types these are, and not by the order in which they are given.
-/

namespace Dalvik

/-- The declared order starts with the primitive of rank zero. -/
theorem Primitive.all_rank (primitive : Primitive) :
    Primitive.all[primitive.rank]? = some primitive := by
  cases primitive <;> rfl

theorem Primitive.rank_injective : Function.Injective Primitive.rank := fun p q h =>
  Option.some.inj ((all_rank p).symm.trans ((congrArg (Primitive.all[·]?) h).trans (all_rank q)))

namespace TypeDescriptor

instance : Std.OrientedCmp TypeDescriptor.compare where
  eq_swap {a b} := by
    induction a generalizing b with
    | void => cases b <;> rfl
    | primitive p =>
      cases b with
      | primitive q => exact Std.OrientedOrd.eq_swap (a := p.rank)
      | _ => rfl
    | named descriptor =>
      cases b with
      | named other => exact Std.OrientedOrd.eq_swap (a := descriptor)
      | _ => rfl
    | array component ih =>
      cases b with
      | array other => exact ih
      | _ => rfl

instance : Std.TransCmp TypeDescriptor.compare where
  isLE_trans {a b c} hab hbc := by
    induction a generalizing b c with
    | void => cases c <;> rfl
    | primitive p =>
      cases b with
      | void => cases hab
      | primitive q =>
        cases c with
        | void => cases hbc
        | primitive r => exact Std.TransOrd.isLE_trans (a := p.rank) hab hbc
        | _ => rfl
      | _ => cases c <;> first | rfl | cases hbc
    | named descriptor =>
      cases b with
      | named middle =>
        cases c with
        | named last => exact Std.TransOrd.isLE_trans (a := descriptor) hab hbc
        | array => rfl
        | _ => cases hbc
      | array => cases c <;> first | rfl | cases hbc
      | _ => cases hab
    | array component ih =>
      cases b with
      | array middle =>
        cases c with
        | array last => exact ih hab hbc
        | _ => cases hbc
      | _ => cases hab

instance : Std.LawfulEqCmp TypeDescriptor.compare where
  compare_self {a} := by
    induction a with
    | void => rfl
    | primitive p => exact Std.ReflOrd.compare_self (a := p.rank)
    | named descriptor => exact Std.ReflOrd.compare_self (a := descriptor)
    | array component ih => exact ih
  eq_of_compare {a b} h := by
    induction a generalizing b with
    | void => cases b <;> first | rfl | cases h
    | primitive p =>
      cases b with
      | primitive q =>
        exact congrArg primitive (Primitive.rank_injective (Std.LawfulEqOrd.eq_of_compare h))
      | _ => cases h
    | named descriptor =>
      cases b with
      | named other => exact congrArg named (Std.LawfulEqOrd.eq_of_compare h)
      | _ => cases h
    | array component ih =>
      cases b with
      | array other => exact congrArg array (ih h)
      | _ => cases h

/-! ## The least type -/

/-- The type is one of these, and none of them comes before it. -/
def IsLeastOf (type : TypeDescriptor) (types : List TypeDescriptor) : Prop :=
  type ∈ types ∧ ∀ other ∈ types, (type.compare other).isLE

variable {type other : TypeDescriptor} {types types' : List TypeDescriptor}

theorem IsLeastOf.unique (h : type.IsLeastOf types) (hother : other.IsLeastOf types) :
    type = other :=
  Std.LawfulEqCmp.eq_of_compare
    (Std.OrientedCmp.isLE_antisymm (h.2 other hother.1) (hother.2 type h.1))

theorem IsLeastOf.of_mem_iff (h : type.IsLeastOf types)
    (hmem : ∀ other, other ∈ types ↔ other ∈ types') : type.IsLeastOf types' :=
  ⟨(hmem type).1 h.1, fun other hother => h.2 other ((hmem other).2 hother)⟩

/-- A type that does not come before the first of these leaves their least type the least. -/
theorem IsLeastOf.cons {first : TypeDescriptor} (h : type.IsLeastOf (first :: types))
    (hle : (first.compare other).isLE) : type.IsLeastOf (other :: first :: types) := by
  refine ⟨List.mem_cons_of_mem _ h.1, fun candidate hcandidate => ?_⟩
  obtain rfl | hcandidate := List.mem_cons.1 hcandidate
  · exact Std.TransCmp.isLE_trans (h.2 first List.mem_cons_self) hle
  · exact h.2 candidate hcandidate

theorem exists_least? (type : TypeDescriptor) (rest : List TypeDescriptor) :
    ∃ least, least? (type :: rest) = some least ∧ least.IsLeastOf (type :: rest) := by
  induction rest generalizing type with
  | nil => exact ⟨type, rfl, by simp [IsLeastOf, Std.ReflCmp.compare_self]⟩
  | cons other rest ih =>
    -- The smaller of the first two is what the rest is compared with.
    obtain ⟨least, hleast, hisLeast⟩ := ih (if (other.compare type).isLT then other else type)
    refine ⟨least, hleast, ?_⟩
    split at hisLeast
    next hlt => exact hisLeast.cons (by simp_all)
    next hlt =>
      have hle : (type.compare other).isLE :=
        Std.OrientedCmp.isGE_iff_isLE.1 (Ordering.isGE_iff_ne_lt.2 (by simpa using hlt))
      exact (hisLeast.cons hle).of_mem_iff fun candidate => (List.Perm.swap ..).mem_iff

theorem least?_eq_some_iff : least? types = some type ↔ type.IsLeastOf types := by
  cases types with
  | nil => simp [least?, IsLeastOf]
  | cons first rest =>
    obtain ⟨least, hleast, hisLeast⟩ := exists_least? first rest
    rw [hleast, Option.some.injEq]
    exact ⟨fun h => h ▸ hisLeast, hisLeast.unique⟩

theorem least?_eq_none_iff : least? types = none ↔ types = [] := by
  cases types <;> simp [least?]

end TypeDescriptor

end Dalvik
