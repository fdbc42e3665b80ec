/-!
# Tables

A finite map as a list of entries in the order in which their keys were first written. Writing a key
that is there replaces its value in place. What is read back after a write is stated by
`get?_insert_self` and `get?_insert_ne`.
-/

namespace Dalvik

/-- A finite map from keys to values. -/
structure Table (κ : Type) (ν : Type) where
  entries : List (κ × ν)

namespace Table

variable {κ ν : Type}

def empty : Table κ ν := ⟨[]⟩

instance : Inhabited (Table κ ν) := ⟨empty⟩

instance : EmptyCollection (Table κ ν) := ⟨empty⟩

/-- The keys, oldest first. -/
def keys (table : Table κ ν) : List κ :=
  table.entries.map Prod.fst

def size (table : Table κ ν) : Nat :=
  table.entries.length

variable [DecidableEq κ]

/-- The value of the first entry for a key. -/
def find (key : κ) : List (κ × ν) → Option ν
  | [] => none
  | (k, v) :: rest => if k = key then some v else find key rest

/-- Replaces the first entry for a key, or appends one. -/
def write (key : κ) (value : ν) : List (κ × ν) → List (κ × ν)
  | [] => [(key, value)]
  | (k, v) :: rest => if k = key then (key, value) :: rest else (k, v) :: write key value rest

def get? (table : Table κ ν) (key : κ) : Option ν :=
  find key table.entries

def contains (table : Table κ ν) (key : κ) : Bool :=
  (table.get? key).isSome

/-- The table in which `key` has this value. -/
def insert (table : Table κ ν) (key : κ) (value : ν) : Table κ ν :=
  ⟨write key value table.entries⟩

/-- The table without any entry for `key`. -/
def erase (table : Table κ ν) (key : κ) : Table κ ν :=
  ⟨table.entries.filter (·.1 ≠ key)⟩

/-- The table of a list of pairs; of two pairs with one key the later counts. -/
def ofList (pairs : List (κ × ν)) : Table κ ν :=
  pairs.foldl (fun table (key, value) => table.insert key value) empty

theorem find_write_self (key : κ) (value : ν) (entries : List (κ × ν)) :
    find key (write key value entries) = some value := by
  induction entries with
  | nil => simp [write, find]
  | cons entry rest ih =>
    obtain ⟨k, v⟩ := entry
    by_cases h : k = key <;> simp [write, find, h, ih]

theorem find_write_ne {key other : κ} (h : key ≠ other) (value : ν) (entries : List (κ × ν)) :
    find other (write key value entries) = find other entries := by
  induction entries with
  | nil => simp [write, find, h]
  | cons entry rest ih =>
    obtain ⟨k, v⟩ := entry
    by_cases hk : k = key
    · subst hk; simp [write, find, h]
    · simp [write, find, hk, ih]

theorem find_filter (key other : κ) (entries : List (κ × ν)) :
    find other (entries.filter (·.1 ≠ key)) =
      if other = key then none else find other entries := by
  induction entries with
  | nil => simp [find]
  | cons entry rest ih =>
    obtain ⟨k, v⟩ := entry
    simp only [ne_eq, decide_not] at ih
    by_cases hk : k = key
    · subst hk
      by_cases h : k = other <;> simp_all [find, eq_comm (a := other)]
    · by_cases h : k = other <;> simp_all [find]

@[simp] theorem get?_empty (key : κ) : (empty : Table κ ν).get? key = none := rfl

@[simp] theorem get?_insert_self (table : Table κ ν) (key : κ) (value : ν) :
    (table.insert key value).get? key = some value :=
  find_write_self key value table.entries

theorem mem_keys_of_find {key : κ} {value : ν} {entries : List (κ × ν)}
    (h : find key entries = some value) : key ∈ entries.map Prod.fst := by
  induction entries with
  | nil => simp [find] at h
  | cons entry rest ih =>
    obtain ⟨k, v⟩ := entry
    by_cases hk : k = key
    · simp [hk]
    · simp only [find, hk, if_false] at h
      exact List.mem_cons_of_mem _ (ih h)

theorem mem_keys_of_get? {table : Table κ ν} {key : κ} {value : ν}
    (h : table.get? key = some value) : key ∈ table.keys :=
  mem_keys_of_find h

theorem get?_insert_ne (table : Table κ ν) {key other : κ} (h : key ≠ other) (value : ν) :
    (table.insert key value).get? other = table.get? other :=
  find_write_ne h value table.entries

theorem get?_erase (table : Table κ ν) (key other : κ) :
    (table.erase key).get? other = if other = key then none else table.get? other :=
  find_filter key other table.entries

end Table

end Dalvik
