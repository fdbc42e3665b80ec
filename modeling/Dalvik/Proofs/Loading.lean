import Dalvik.Program
import Dalvik.Proofs.Descriptors.Order
import Mathlib.Data.List.Nodup

/-!
# Loading in any order

Definitions may be loaded in parallel. Each is put into the program at once, but nothing determines
in which order. Of several definitions with one name every one but the first to land displaces
another and reports the name, so the order decides which of them report. It does not decide how
often a name is reported: once less often than it occurs. The least name that is reported is hence
the same in every order, and where no name occurs twice nothing is displaced.
-/

namespace Dalvik.Program

/-- A program of exactly these definitions, which answers from them. -/
structure Holds (program : Program) (definitions : List ClassDefinition) : Prop where
  same : program.definitions.Perm definitions
  size : program.size = definitions.length
  classes : ∀ type definition, program.find? type = some definition ↔
    definition ∈ definitions ∧ definition.name = type
  fields : ∀ definition ∈ definitions, program.fieldsOf definition.name = .ok definition.fields
  notLocal : ∀ type, (∀ definition ∈ definitions, definition.name ≠ type) →
    program.fieldsOf type = .error (.classNotLocal type)
  declarations : ∀ field declared, program.declaration? field = some declared ↔
    ∃ definition ∈ definitions, definition.name = field.owner ∧
      ∃ before after, definition.fields = before ++ declared :: after ∧
        declared.id = field ∧ ∀ other ∈ before, other.id ≠ field

/-- Several of the definitions have this name. -/
def Repeated (definitions : List ClassDefinition) (type : TypeDescriptor) : Prop :=
  1 < (definitions.map (·.name)).count type

variable {program : Program} {definitions landed order : List ClassDefinition}
  {definition : ClassDefinition} {type : TypeDescriptor} {loading : Loading}
  {reports : List TypeDescriptor}

/-! ## Answers -/

theorem find?_eq_some_iff :
    program.find? type = some definition ↔
      definition ∈ program.definitions ∧ definition.name = type := by
  constructor
  · exact fun h => ⟨List.mem_of_find?_eq_some h, name_of_find? h⟩
  · rintro ⟨hmem, rfl⟩
    obtain ⟨found, hfound⟩ := Option.isSome_iff_exists.1
      (isLocal_iff_mem_names.2 (List.mem_map_of_mem hmem))
    rw [hfound, List.inj_on_of_nodup_map program.distinct
      (List.mem_of_find?_eq_some hfound) hmem (name_of_find? hfound)]

theorem declaration?_eq_some_iff {field : FieldId} {declared : DeclaredField} :
    program.declaration? field = some declared ↔
      ∃ definition ∈ program.definitions, definition.name = field.owner ∧
        ∃ before after, definition.fields = before ++ declared :: after ∧
          declared.id = field ∧ ∀ other ∈ before, other.id ≠ field := by
  simp only [declaration?, Option.bind_eq_some_iff, find?_eq_some_iff, and_assoc,
    ClassDefinition.declaration?, List.find?_eq_some_iff_append, decide_eq_true_eq]
  grind

theorem Holds.of_perm (h : program.definitions.Perm definitions) : program.Holds definitions where
  same := h
  size := h.length_eq
  classes type definition := by rw [find?_eq_some_iff, h.mem_iff]
  fields definition hmem := by
    rw [fieldsOf, find?_eq_some_iff.2 ⟨h.mem_iff.2 hmem, rfl⟩]
  notLocal type habsent := by
    have hfind : program.find? type = none := by
      refine Option.eq_none_iff_forall_not_mem.2 fun definition hfound => ?_
      obtain ⟨hmem, hname⟩ := find?_eq_some_iff.1 hfound
      exact habsent definition (h.mem_iff.1 hmem) hname
    rw [fieldsOf, hfind]
  declarations field declared := by simp only [declaration?_eq_some_iff, h.mem_iff]

/-! ## One definition -/

/-- A definition with a name of its own comes last. -/
theorem place_of_not_mem (h : definition.name ∉ definitions.map (·.name)) :
    place definition definitions = definitions ++ [definition] := by
  induction definitions with
  | nil => rfl
  | cons other rest ih =>
    have hother : other.name ≠ definition.name := (List.ne_of_not_mem_cons h).symm
    rw [place, if_neg hother, ih (List.not_mem_of_not_mem_cons h), List.cons_append]

/-- What a load has come to after these definitions landed in this order: which names are local, and
how often each was reported. Where all names differ the program has the definitions as they came. -/
structure Loading.After (loading : Loading) (landed : List ClassDefinition) : Prop where
  names : ∀ type, type ∈ loading.program.names ↔ type ∈ landed.map (·.name)
  reported : ∀ type,
    loading.displaced.count type = (landed.map (·.name)).count type - 1
  definitions : (landed.map (·.name)).Nodup → loading.program.definitions = landed

theorem Loading.after_start : Loading.start.After [] where
  names _ := Iff.rfl
  reported _ := rfl
  definitions _ := rfl

theorem Loading.After.insert (h : loading.After landed) (definition : ClassDefinition) :
    (loading.insert definition).After (landed ++ [definition]) where
  names type := by
    rw [List.map_append, List.mem_append, ← h.names type, or_comm, List.map_singleton,
      List.mem_singleton]
    exact mem_names_place
  reported type := by
    have hlocal : loading.program.isLocal definition.name ↔
        0 < (landed.map (·.name)).count definition.name := by
      rw [List.count_pos_iff, ← h.names, isLocal_iff_mem_names]
    have hcount := h.reported type
    simp only [Loading.insert, List.map_append, List.map_singleton, List.count_append,
      List.count_singleton, beq_iff_eq]
    -- A name that landed before is reported once more; a new one occurs once and is not reported.
    split <;> grind
  definitions hnodup := by
    rw [List.map_append, List.nodup_append] at hnodup
    have hprogram := h.definitions hnodup.1
    have habsent : definition.name ∉ loading.program.definitions.map (·.name) := by
      rw [hprogram]
      exact fun hmem => hnodup.2.2 _ hmem definition.name (List.mem_singleton_self _) rfl
    exact (place_of_not_mem habsent).trans (congrArg (· ++ [definition]) hprogram)

/-! ## All definitions -/

theorem Loading.After.foldl (h : loading.After landed) (order : List ClassDefinition) :
    (order.foldl Loading.insert loading).After (landed ++ order) := by
  induction order generalizing loading landed with
  | nil => simpa using h
  | cons definition rest ih => simpa using ih (h.insert definition)

theorem Loading.after_inOrder (order : List ClassDefinition) : (inOrder order).After order :=
  after_start.foldl order

/-- Whichever order they land in, the names that occur several times are reported. -/
theorem mem_reports_iff (horder : order.Perm definitions)
    (hreports : reports.Perm (Loading.inOrder order).displaced) :
    type ∈ reports ↔ Repeated definitions type := by
  have hcount : (order.map (·.name)).count type = (definitions.map (·.name)).count type :=
    (horder.map _).count_eq type
  rw [hreports.mem_iff, ← List.count_pos_iff, (Loading.after_inOrder order).reported, hcount,
    Repeated]
  omega

/-! ## The result -/

theorem Loading.result_eq_error_iff {fault : Fault} :
    loading.result reports = .error fault ↔
      ∃ type, fault = .duplicateClass type ∧ type.IsLeastOf reports := by
  unfold Loading.result
  split
  next least hleast =>
    have hisLeast := TypeDescriptor.least?_eq_some_iff.1 hleast
    rw [Except.error.injEq]
    constructor
    · exact fun h => ⟨least, h.symm, hisLeast⟩
    · rintro ⟨type, rfl, htype⟩
      rw [hisLeast.unique htype]
  next hnone =>
    rw [TypeDescriptor.least?_eq_none_iff] at hnone
    simp [hnone, TypeDescriptor.IsLeastOf]

/-- In whichever order the definitions land and the reports are collected, a load fails exactly with
the least of the names that occur several times. -/
theorem result_eq_error_iff_repeated (horder : order.Perm definitions)
    (hreports : reports.Perm (Loading.inOrder order).displaced) {fault : Fault} :
    (Loading.inOrder order).result reports = .error fault ↔
      ∃ type, fault = .duplicateClass type ∧ Repeated definitions type ∧
        ∀ other, Repeated definitions other → (type.compare other).isLE := by
  simp only [Loading.result_eq_error_iff, TypeDescriptor.IsLeastOf,
    mem_reports_iff horder hreports]

/-- If no name occurs several times, the load makes a program of the definitions. -/
theorem exists_holds (horder : order.Perm definitions)
    (hreports : reports.Perm (Loading.inOrder order).displaced)
    (h : ∀ type, ¬ Repeated definitions type) :
    ∃ program, (Loading.inOrder order).result reports = .ok program ∧
      program.Holds definitions := by
  have hnone : reports = [] := List.eq_nil_iff_forall_not_mem.2 fun type hmem =>
    h type ((mem_reports_iff horder hreports).1 hmem)
  have hnodup : (order.map (·.name)).Nodup := by
    rw [(horder.map _).nodup_iff, List.nodup_iff_count_le_one]
    exact fun type => Nat.not_lt.1 (h type)
  rw [hnone]
  refine ⟨(Loading.inOrder order).program, rfl, .of_perm ?_⟩
  rwa [(Loading.after_inOrder order).definitions hnodup]

/-- Some name is reported if one occurs several times. -/
theorem exists_error_iff_repeated (horder : order.Perm definitions)
    (hreports : reports.Perm (Loading.inOrder order).displaced) :
    (∃ type, (Loading.inOrder order).result reports = .error (.duplicateClass type)) ↔
      ∃ type, Repeated definitions type := by
  constructor
  · rintro ⟨type, h⟩
    obtain ⟨least, -, hrepeated, -⟩ := (result_eq_error_iff_repeated horder hreports).1 h
    exact ⟨least, hrepeated⟩
  · rintro ⟨type, hrepeated⟩
    obtain ⟨first, rest, hfirst⟩ := List.exists_cons_of_ne_nil
      (List.ne_nil_of_mem ((mem_reports_iff horder hreports).2 hrepeated))
    obtain ⟨least, hleast, hisLeast⟩ := TypeDescriptor.exists_least? first rest
    exact ⟨least, Loading.result_eq_error_iff.2 ⟨least, rfl, hfirst ▸ hisLeast⟩⟩

/-- A load fails if and only if a name occurs several times, with the least such name; else it
returns a program that holds exactly the definitions. It would do the same if the definitions
landed in any other order, and the reports were collected in any other order. -/
theorem load_in_any_order (definitions : List ClassDefinition) :
    ((∃ type, load definitions = .error (.duplicateClass type)) ↔
      ∃ type, Repeated definitions type) ∧
    (∀ fault, load definitions = .error fault ↔
      ∃ type, fault = .duplicateClass type ∧ Repeated definitions type ∧
        ∀ other, Repeated definitions other → (type.compare other).isLE) ∧
    ((∀ type, ¬ Repeated definitions type) →
      ∃ program, load definitions = .ok program ∧ program.Holds definitions) ∧
    ∀ order reports, order.Perm definitions →
      reports.Perm (Loading.inOrder order).displaced →
      (∀ fault, (Loading.inOrder order).result reports = .error fault ↔
        load definitions = .error fault) ∧
      ∀ program, (Loading.inOrder order).result reports = .ok program →
        program.Holds definitions := by
  have hfails : ∀ fault, load definitions = .error fault ↔ _ := fun _ =>
    result_eq_error_iff_repeated (.refl definitions) (.refl _)
  refine ⟨exists_error_iff_repeated (.refl definitions) (.refl _), hfails,
    exists_holds (.refl definitions) (.refl _), fun order reports horder hreports => ⟨?_, ?_⟩⟩
  · intro fault
    exact (result_eq_error_iff_repeated horder hreports).trans (hfails fault).symm
  · intro program hloaded
    have hdistinct : ∀ type, ¬ Repeated definitions type := by
      intro type hrepeated
      obtain ⟨least, herror⟩ := (exists_error_iff_repeated horder hreports).2 ⟨type, hrepeated⟩
      cases hloaded.symm.trans herror
    obtain ⟨found, hfound, hholds⟩ := exists_holds horder hreports hdistinct
    cases hloaded.symm.trans hfound
    exact hholds

open ClassDefinition in
/-- Two classes that land in the opposite order, once each and twice each. -/
theorem load_in_any_order_reversed :
    (∃ program, load [ofName .string, ofName .object] = .ok program ∧
      program.Holds [ofName .string, ofName .object]) ∧
    (∃ program, (Loading.inOrder [ofName .object, ofName .string]).result [] = .ok program ∧
      program.Holds [ofName .string, ofName .object]) ∧
    [.string, .object].Perm (Loading.inOrder
      [ofName .object, ofName .string, ofName .object, ofName .string]).displaced ∧
    (Loading.inOrder [ofName .object, ofName .string, ofName .object, ofName .string]).result
      [.string, .object] = .error (.duplicateClass .object) ∧
    load [ofName .string, ofName .object, ofName .string, ofName .object] =
      .error (.duplicateClass .object) := by
  obtain ⟨-, -, hholds, hany⟩ := load_in_any_order [ofName .string, ofName .object]
  have hdistinct : ∀ type, ¬ Repeated [ofName .string, ofName .object] type := by
    have hnodup : ([ofName .string, ofName .object].map (·.name)).Nodup := by decide
    exact fun type => Nat.not_lt.2 (List.nodup_iff_count_le_one.1 hnodup type)
  let definitions := [ofName .string, ofName .object, ofName .string, ofName .object]
  obtain ⟨-, hfails, -, hanyTwice⟩ := load_in_any_order definitions
  have hreports : [.string, .object].Perm (Loading.inOrder definitions.reverse).displaced :=
    .swap _ _ _
  have hleast : ∀ other, Repeated definitions other →
      (TypeDescriptor.object.compare other).isLE := by
    intro other h
    have hmem : other ∈ definitions.map (·.name) := List.count_pos_iff.1 (Nat.zero_lt_of_lt h)
    obtain rfl | rfl | rfl | rfl : other = .string ∨ other = .object ∨ other = .string ∨
      other = .object := by simpa [definitions, ofName] using hmem
    all_goals decide
  have herror := (hfails (.duplicateClass .object)).2
    ⟨.object, rfl, by unfold Repeated; decide, hleast⟩
  have hreversed := hanyTwice definitions.reverse _ (List.reverse_perm definitions) hreports
  exact ⟨hholds hdistinct,
    ⟨_, rfl, (hany [ofName .object, ofName .string] [] (.swap _ _ _) (.refl _)).2 _ rfl⟩,
    hreports, (hreversed.1 _).2 herror, herror⟩

end Dalvik.Program
