import Dalvik.Proofs.Descriptors
import Dalvik.Proofs.Descriptors.Order
import Mathlib.Data.String.Basic
import Mathlib.Order.RelClasses

/-!
# Sorted types

The order of types as it is declared: void, the primitive types in the order of their letters, the
classes by the bytes of their texts, the arrays by their components. It is a strict total order, so
whatever types there are, one list has each of them once in ascending order, and sorting makes it
from every list that has each of them once.
-/

namespace Dalvik

/-! ## Texts and their bytes -/

namespace Text

/-- The bytes of a text in UTF-8. -/
def bytes (text : String) : List UInt8 :=
  text.toByteArray.data.toList

theorem bytes_eq_flatMap (text : String) :
    bytes text = text.toList.flatMap String.utf8EncodeChar := by
  rw [bytes, ← String.utf8Encode_toList, List.utf8Encode, List.toList_data_toByteArray]

/-- The smaller of two numbers is smaller in the first of its digits, to the base 64, that differs.
-/
theorem digits_lt {m n : Nat} (h : m < n) :
    m / 262144 < n / 262144 ∨ m / 262144 = n / 262144 ∧
      (m / 4096 % 64 < n / 4096 % 64 ∨ m / 4096 % 64 = n / 4096 % 64 ∧
        (m / 64 % 64 < n / 64 % 64 ∨ m / 64 % 64 = n / 64 % 64 ∧ m % 64 < n % 64)) := by
  omega

theorem byte_cons_lt_iff {m n : Nat} (hm : m < 256) (hn : n < 256) {rest rest' : List UInt8} :
    UInt8.ofNat m :: rest < UInt8.ofNat n :: rest' ↔ m < n ∨ m = n ∧ rest < rest' := by
  rw [List.cons_lt_cons_iff, UInt8.lt_iff_toNat_lt, ← UInt8.toNat_inj,
    UInt8.toNat_ofNat_of_lt' hm, UInt8.toNat_ofNat_of_lt' hn]

/-- The bytes of a smaller character are smaller, whatever follows. A longer form begins with a
larger byte, and forms of one length hold the digits of the character, the highest in front. -/
theorem utf8EncodeChar_append_lt {c d : Char} (h : c < d) (rest rest' : List UInt8) :
    String.utf8EncodeChar c ++ rest < String.utf8EncodeChar d ++ rest' := by
  have hcode : c.val.toNat < d.val.toNat := h
  have hlast : d.val.toNat < 0x110000 := by
    rcases d.valid with hlow | ⟨-, hhigh⟩
    · exact hlow.trans (by decide)
    · exact hhigh
  have hdigits := digits_lt hcode
  simp only [String.utf8EncodeChar]
  split_ifs
  -- The form of the smaller character is not the longer one.
  any_goals omega
  all_goals
    simp (disch := omega) only [List.cons_append, List.nil_append, byte_cons_lt_iff,
      Nat.mod_eq_of_lt]
    omega

theorem flatMap_utf8EncodeChar_lt {text other : List Char} (h : text < other) :
    text.flatMap String.utf8EncodeChar < other.flatMap String.utf8EncodeChar := by
  induction text generalizing other with
  | nil =>
    cases other with
    | nil => exact absurd h (List.not_lt_nil _)
    | cons d other =>
      obtain ⟨byte, more, hbytes⟩ := List.exists_cons_of_ne_nil (@String.utf8EncodeChar_ne_nil d)
      rw [List.flatMap_cons, hbytes]
      exact List.nil_lt_cons ..
  | cons c text ih =>
    cases other with
    | nil => exact absurd h (List.not_lt_nil _)
    | cons d other =>
      rw [List.flatMap_cons, List.flatMap_cons]
      rcases List.cons_lt_cons_iff.1 h with hlt | ⟨rfl, hrest⟩
      · exact utf8EncodeChar_append_lt hlt _ _
      · exact List.append_left_lt (ih hrest)

/-- Texts are in the order of their bytes. -/
theorem bytes_lt_iff {text other : String} : bytes text < bytes other ↔ text < other := by
  have hmono {text other : String} (h : text < other) : bytes text < bytes other := by
    rw [bytes_eq_flatMap, bytes_eq_flatMap]
    exact flatMap_utf8EncodeChar_lt (String.lt_iff_toList_lt.1 h)
  refine ⟨fun h => ?_, hmono⟩
  rcases lt_trichotomy text other with hless | rfl | hgreater
  · exact hless
  · exact absurd h (List.lt_irrefl _)
  · exact absurd h (List.lt_asymm (hmono hgreater))

end Text

namespace TypeDescriptor

/-! ## The declared order -/

/-- The order of types. Void comes first; then come the primitive types, in the order `ZBSCIJFD` of
their letters; then the classes, in the order of the bytes of their texts; and then the arrays, in
the order of their components. -/
inductive Precedes : TypeDescriptor → TypeDescriptor → Prop where
  | void {other} (h : other ≠ .void) : Precedes .void other
  | letters {p q : Primitive} (h : letters.idxOf p.letter < letters.idxOf q.letter) :
      Precedes (.primitive p) (.primitive q)
  | primitive {p other} (h : other.isReference = true) : Precedes (.primitive p) other
  | texts {descriptor other} (h : Text.bytes descriptor < Text.bytes other) :
      Precedes (.named descriptor) (.named other)
  | named {descriptor component} : Precedes (.named descriptor) (.array component)
  | components {component other} (h : Precedes component other) :
      Precedes (.array component) (.array other)

theorem idxOf_letter (p : Primitive) : letters.idxOf p.letter = p.rank := by
  cases p <;> rfl

variable {type other : TypeDescriptor} {types types' : List TypeDescriptor}

theorem Precedes.compare (h : type.Precedes other) : type.compare other = .lt := by
  induction h with
  | void h =>
    rename_i other
    cases other with
    | void => exact absurd rfl h
    | _ => rfl
  | letters h =>
    rw [idxOf_letter, idxOf_letter] at h
    exact Nat.compare_eq_lt.2 h
  | primitive h =>
    rename_i other
    cases other with
    | void => cases h
    | primitive => cases h
    | _ => rfl
  | texts h => exact compare_lt_iff_lt.2 (Text.bytes_lt_iff.1 h)
  | named => rfl
  | components h ih => exact ih

theorem precedes_of_compare (h : type.compare other = .lt) : type.Precedes other := by
  induction type generalizing other with
  | void =>
    refine .void ?_
    rintro rfl
    cases h
  | primitive p =>
    cases other with
    | void => cases h
    | primitive q =>
      refine .letters ?_
      rw [idxOf_letter, idxOf_letter]
      exact Nat.compare_eq_lt.1 h
    | _ => exact .primitive rfl
  | named descriptor =>
    cases other with
    | named other => exact .texts (Text.bytes_lt_iff.2 (compare_lt_iff_lt.1 h))
    | array => exact .named
    | _ => cases h
  | array component ih =>
    cases other with
    | array other => exact .components (ih h)
    | _ => cases h

/-- Types are compared by the declared order. -/
theorem compare_eq_lt_iff : type.compare other = .lt ↔ type.Precedes other :=
  ⟨precedes_of_compare, Precedes.compare⟩

theorem compare_eq_gt_iff : type.compare other = .gt ↔ other.Precedes type := by
  rw [Std.OrientedCmp.gt_iff_lt, compare_eq_lt_iff]

instance : IsStrictTotalOrder TypeDescriptor Precedes where
  irrefl type h := by
    have hself : type.compare type = .eq := Std.ReflCmp.compare_self
    cases hself.symm.trans h.compare
  trans _ _ _ h h' := precedes_of_compare (Std.TransCmp.lt_trans h.compare h'.compare)
  trichotomous type other h h' := by
    rw [← compare_eq_lt_iff] at h
    rw [← compare_eq_gt_iff] at h'
    cases hcompare : type.compare other with
    | lt => exact absurd hcompare h
    | eq => exact Std.LawfulEqCmp.eq_of_compare hcompare
    | gt => exact absurd hcompare h'

/-! ## Ascending lists -/

theorem sort_perm (types : List TypeDescriptor) : (sort types).Perm types :=
  List.mergeSort_perm ..

theorem pairwise_sort (types : List TypeDescriptor) :
    (sort types).Pairwise fun a b => (a.compare b).isLE := by
  apply List.pairwise_mergeSort
  · intro a b c hab hbc
    exact Std.TransCmp.isLE_trans hab hbc
  · intro a b
    have hswap : b.compare a = (a.compare b).swap := Std.OrientedCmp.eq_swap
    rw [hswap]
    cases a.compare b <;> rfl

/-- Sorting puts types of which none occurs twice into ascending order. -/
theorem ascending_sort (h : types.Nodup) : (sort types).Pairwise Precedes := by
  have hnodup : (sort types).Nodup := (sort_perm types).nodup_iff.2 h
  refine (pairwise_sort types).imp₂ (fun a b hle hne => ?_) hnodup
  cases hcompare : a.compare b with
  | lt => exact precedes_of_compare hcompare
  | eq => exact absurd (Std.LawfulEqCmp.eq_of_compare hcompare) hne
  | gt => simp [hcompare] at hle

theorem nodup_of_ascending (h : types.Pairwise Precedes) : types.Nodup :=
  h.imp fun hlt => ne_of_irrefl hlt

/-- An ascending list is determined by which types are in it. -/
theorem eq_of_ascending (h : types.Pairwise Precedes) (h' : types'.Pairwise Precedes)
    (hmem : ∀ type, type ∈ types ↔ type ∈ types') : types = types' := by
  have hperm : types.Perm types' :=
    (List.perm_ext_iff_of_nodup (nodup_of_ascending h) (nodup_of_ascending h')).2 hmem
  exact hperm.eq_of_pairwise (fun _ _ _ _ hlt hgt => absurd hgt (asymm_of Precedes hlt)) h h'

end TypeDescriptor

end Dalvik
