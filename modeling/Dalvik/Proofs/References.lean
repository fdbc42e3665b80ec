import Dalvik.Field.Parser
import Dalvik.Proofs.Descriptors

/-!
# References to fields

Which texts refer to a field, and which fields are the meaning of one. A text is split at its first
arrow, and what follows at its first colon. The text of an owner may hold `-`, `>` and `:`, and a
name may hold an arrow, so where the splits fall has to be shown: a text that can be read is put
together from its parts in one way only.
-/

namespace Dalvik.FieldId

/-- There is an arrow in the text. -/
def HasArrow (text : List Char) : Prop :=
  ['-', '>'] <:+: text

/-- The texts of a class or an array without an arrow in it, of a name of at least one character and
without a colon in it, and of a type. -/
structure IsParts (owner name type : String) : Prop where
  isOwner : ∃ read, TypeDescriptor.parse owner = .ok read ∧ read.isReference = true
  noArrow : ¬ HasArrow owner.toList
  nonempty : name ≠ ""
  noColon : ':' ∉ name.toList
  isType : ∃ read, TypeDescriptor.parse type = .ok read

/-- The text of the field can be read: its owner is a class or an array, both types have the text of
a descriptor, and the arrow and the colon that separate the parts are the first ones. -/
structure WellFormed (field : FieldId) : Prop where
  owner : field.owner.WellFormed
  isReference : field.owner.isReference = true
  noArrow : ¬ HasArrow field.owner.text.toList
  nonempty : field.name ≠ ""
  noColon : ':' ∉ field.name.toList
  type : field.type.WellFormed

variable {field : FieldId} {reference owner name type : String}
  {text before after : List Char}

/-! ## Where a text is split -/

theorem not_hasArrow_nil : ¬ HasArrow [] := by
  simp [HasArrow]

theorem hasArrow_cons {c : Char} :
    HasArrow (c :: text) ↔ (c = '-' ∧ text.head? = some '>') ∨ HasArrow text := by
  unfold HasArrow
  rw [List.infix_cons_iff]
  cases text with
  | nil => simp
  | cons d rest => simp [List.cons_prefix_cons, eq_comm]

/-- No arrow begins at the first character. -/
theorem splitArrow_cons {c : Char} (h : ¬ (c = '-' ∧ text.head? = some '>')) :
    splitArrow (c :: text) =
      (splitArrow text).map fun (before, after) => (c :: before, after) := by
  rw [splitArrow]
  intro rest hc htext
  exact h ⟨hc, by simp [htext]⟩

/-- The first arrow behind a text without one: the last character of that text does not begin an
arrow with what follows, since an arrow begins with `-`. -/
theorem splitArrow_append (h : ¬ HasArrow before) (after : List Char) :
    splitArrow (before ++ '-' :: '>' :: after) = some (before, after) := by
  induction before with
  | nil => rfl
  | cons c rest ih =>
    rw [hasArrow_cons, not_or] at h
    obtain ⟨hc, hrest⟩ := h
    have hnext : ¬ (c = '-' ∧ (rest ++ '-' :: '>' :: after).head? = some '>') := by
      cases rest with
      | nil => simp
      | cons d more => simpa using hc
    rw [List.cons_append, splitArrow_cons hnext, ih hrest]
    rfl

theorem of_splitArrow (h : splitArrow text = some (before, after)) :
    text = before ++ '-' :: '>' :: after ∧ ¬ HasArrow before := by
  induction text generalizing before with
  | nil => cases h
  | cons c rest ih =>
    by_cases hc : c = '-' ∧ rest.head? = some '>'
    · obtain ⟨rfl, hhead⟩ := hc
      obtain ⟨more, rfl⟩ := List.head?_eq_some_iff.1 hhead
      cases h
      exact ⟨rfl, not_hasArrow_nil⟩
    · rw [splitArrow_cons hc, Option.map_eq_some_iff] at h
      obtain ⟨⟨first, second⟩, hsplit, hparts⟩ := h
      cases hparts
      obtain ⟨htext, harrow⟩ := ih hsplit
      subst htext
      refine ⟨rfl, ?_⟩
      rw [hasArrow_cons, not_or]
      refine ⟨?_, harrow⟩
      intro hfirst
      apply hc
      cases first with
      | nil => simp at hfirst
      | cons d more => simpa using hfirst

theorem splitColon_append (h : ':' ∉ before) (after : List Char) :
    splitColon (before ++ ':' :: after) = some (before, after) := by
  induction before with
  | nil => rfl
  | cons c rest ih =>
    rw [List.mem_cons, not_or] at h
    obtain ⟨hc, hrest⟩ := h
    rw [List.cons_append, splitColon, ih hrest]
    · rfl
    · exact fun heq => hc heq.symm

theorem of_splitColon (h : splitColon text = some (before, after)) :
    text = before ++ ':' :: after ∧ ':' ∉ before := by
  induction text generalizing before with
  | nil => cases h
  | cons c rest ih =>
    by_cases hc : c = ':'
    · subst hc
      cases h
      simp
    · rw [splitColon, Option.map_eq_some_iff] at h
      · obtain ⟨⟨first, second⟩, hsplit, hparts⟩ := h
        cases hparts
        obtain ⟨htext, hcolon⟩ := ih hsplit
        simp [htext, hcolon, Ne.symm hc]
      · exact hc

/-! ## Reading a whole text -/

/-- What a text has to be for a field to be read from it. -/
theorem parse?_eq_some_iff :
    parse? reference = some field ↔
      ∃ owner member type, splitArrow reference.toList = some (owner, member) ∧
        splitColon member = some (field.name.toList, type) ∧ field.name ≠ "" ∧
        TypeDescriptor.parse (String.ofList owner) = .ok field.owner ∧
        field.owner.isReference = true ∧
        TypeDescriptor.parse (String.ofList type) = .ok field.type := by
  have hread {text : String} {type : TypeDescriptor} :
      (TypeDescriptor.parse text).toOption = some type ↔
        TypeDescriptor.parse text = .ok type := by
    cases TypeDescriptor.parse text <;> simp [Except.toOption]
  unfold parse?
  simp only [Option.bind_eq_bind, Option.bind_eq_some_iff]
  constructor
  · intro h
    obtain ⟨⟨owner, member⟩, harrow, ⟨name, type⟩, hcolon, h⟩ := h
    cases name with
    | nil => simp at h
    | cons c rest =>
      simp only [List.isEmpty_cons, Bool.false_eq_true, if_false, Option.bind_eq_some_iff,
        hread] at h
      obtain ⟨found, howner, h⟩ := h
      by_cases hreference : found.isReference = true
      · simp only [hreference, if_true, Option.bind_eq_some_iff, hread, Option.some.injEq] at h
        obtain ⟨read, htype, rfl⟩ := h
        refine ⟨owner, member, type, harrow, ?_, ?_, howner, hreference, htype⟩
        · simpa using hcolon
        · simp [← String.toList_inj]
      · simp [hreference] at h
  · intro h
    obtain ⟨owner, member, type, harrow, hcolon, hname, howner, hreference, htype⟩ := h
    refine ⟨(owner, member), harrow, (field.name.toList, type), hcolon, ?_⟩
    simp [hname, howner, hreference, htype, Except.toOption]

theorem toList_text (field : FieldId) :
    field.text.toList = field.owner.text.toList ++
      '-' :: '>' :: (field.name.toList ++ ':' :: field.type.text.toList) := by
  simp [text]

/-- A field is read from its own text and from no other, if it is well formed. -/
theorem parse?_eq_some_iff_text :
    parse? reference = some field ↔ field.WellFormed ∧ field.text = reference := by
  rw [parse?_eq_some_iff]
  constructor
  · intro h
    obtain ⟨owner, member, type, harrow, hcolon, hname, howner, hreference, htype⟩ := h
    obtain ⟨htext, hnoArrow⟩ := of_splitArrow harrow
    obtain ⟨hmember, hnoColon⟩ := of_splitColon hcolon
    obtain ⟨hownerFormed, hownerText⟩ := TypeDescriptor.parse_eq_ok_iff.1 howner
    obtain ⟨htypeFormed, htypeText⟩ := TypeDescriptor.parse_eq_ok_iff.1 htype
    have hparts : field.owner.text.toList = owner ∧ field.type.text.toList = type := by
      rw [hownerText, htypeText]
      simp
    obtain ⟨rfl, rfl⟩ := hparts
    refine ⟨⟨hownerFormed, hreference, hnoArrow, hname, hnoColon, htypeFormed⟩, ?_⟩
    rw [← String.toList_inj, toList_text, htext, hmember]
  · intro h
    obtain ⟨hformed, htext⟩ := h
    subst htext
    refine ⟨field.owner.text.toList, _, field.type.text.toList, ?_,
      splitColon_append hformed.noColon _, hformed.nonempty, ?_, hformed.isReference, ?_⟩
    · rw [toList_text]
      exact splitArrow_append hformed.noArrow _
    · rw [String.ofList_toList]
      exact TypeDescriptor.parse_eq_ok_iff.2 ⟨hformed.owner, rfl⟩
    · rw [String.ofList_toList]
      exact TypeDescriptor.parse_eq_ok_iff.2 ⟨hformed.type, rfl⟩

theorem parse_eq_ok_iff :
    parse reference = .ok field ↔ field.WellFormed ∧ field.text = reference := by
  rw [← parse?_eq_some_iff_text]
  unfold parse
  cases parse? reference <;> simp

/-- What is not read is reported as a whole. -/
theorem parse_of_rejected (h : ¬ ∃ read, parse reference = .ok read) :
    parse reference = .error (.invalidDescriptor reference) := by
  unfold parse at h ⊢
  cases hread : parse? reference with
  | none => rfl
  | some read => simp [hread] at h

/-! ## The parts of a text -/

/-- The parts of a text are the owner, the name and the type of a well-formed field. -/
theorem isParts_iff :
    IsParts owner name type ↔ ∃ field : FieldId, field.WellFormed ∧
      field.owner.text = owner ∧ field.name = name ∧ field.type.text = type := by
  constructor
  · intro h
    obtain ⟨read, howner, hreference⟩ := h.isOwner
    obtain ⟨read', htype⟩ := h.isType
    obtain ⟨hownerFormed, rfl⟩ := TypeDescriptor.parse_eq_ok_iff.1 howner
    obtain ⟨htypeFormed, rfl⟩ := TypeDescriptor.parse_eq_ok_iff.1 htype
    exact ⟨⟨read, name, read'⟩,
      ⟨hownerFormed, hreference, h.noArrow, h.nonempty, h.noColon, htypeFormed⟩, rfl, rfl, rfl⟩
  · intro h
    obtain ⟨field, hformed, rfl, rfl, rfl⟩ := h
    refine ⟨⟨field.owner, ?_, hformed.isReference⟩, hformed.noArrow, hformed.nonempty,
      hformed.noColon, ⟨field.type, ?_⟩⟩
    · exact TypeDescriptor.parse_eq_ok_iff.2 ⟨hformed.owner, rfl⟩
    · exact TypeDescriptor.parse_eq_ok_iff.2 ⟨hformed.type, rfl⟩

/-- A field is well formed if it is made from the parts of some text. -/
theorem wellFormed_iff_made :
    field.WellFormed ↔ ∃ owner type, IsParts owner field.name type ∧
      TypeDescriptor.parse owner = .ok field.owner ∧ TypeDescriptor.parse type = .ok field.type := by
  constructor
  · intro h
    refine ⟨field.owner.text, field.type.text, isParts_iff.2 ⟨field, h, rfl, rfl, rfl⟩, ?_, ?_⟩
    · exact TypeDescriptor.parse_eq_ok_iff.2 ⟨h.owner, rfl⟩
    · exact TypeDescriptor.parse_eq_ok_iff.2 ⟨h.type, rfl⟩
  · intro h
    obtain ⟨owner, type, hparts, howner, htype⟩ := h
    obtain ⟨read, hread, hreference⟩ := hparts.isOwner
    obtain ⟨hownerFormed, hownerText⟩ := TypeDescriptor.parse_eq_ok_iff.1 howner
    obtain ⟨htypeFormed, -⟩ := TypeDescriptor.parse_eq_ok_iff.1 htype
    rw [howner] at hread
    cases hread
    refine ⟨hownerFormed, hreference, ?_, hparts.nonempty, hparts.noColon, htypeFormed⟩
    rw [hownerText]
    exact hparts.noArrow

/-- The field with these parts is what is read from the text. -/
theorem IsParts.exists_parse (h : IsParts owner name type) :
    ∃ read : FieldId, parse (owner ++ "->" ++ name ++ ":" ++ type) = .ok read ∧
      read.owner.text = owner ∧ read.name = name ∧ read.type.text = type := by
  obtain ⟨read, hformed, rfl, rfl, rfl⟩ := isParts_iff.1 h
  exact ⟨read, parse_eq_ok_iff.2 ⟨hformed, rfl⟩, rfl, rfl, rfl⟩

/-- The parts determine each other through the text: what is read from it has their texts. -/
theorem IsParts.eq_of_text {owner' name' type' : String} (h : IsParts owner name type)
    (h' : IsParts owner' name' type')
    (htext : owner' ++ "->" ++ name' ++ ":" ++ type' = owner ++ "->" ++ name ++ ":" ++ type) :
    owner' = owner ∧ name' = name ∧ type' = type := by
  obtain ⟨read, hread, rfl, rfl, rfl⟩ := h.exists_parse
  obtain ⟨read', hread', rfl, rfl, rfl⟩ := h'.exists_parse
  rw [htext, hread] at hread'
  cases hread'
  exact ⟨rfl, rfl, rfl⟩

/-- A field is read from exactly the texts that are put together from the parts of one. They are
put together in one way, and what is read has these parts and is written as the same text. Exactly
the fields that are made from such parts are read back from their text, and whatever else a text
is, the failure carries the whole of it. -/
theorem parse_exactly_references (reference : String) (field : FieldId) :
    ((∃ read, parse reference = .ok read) ↔
      ∃ owner name type, IsParts owner name type ∧
        owner ++ "->" ++ name ++ ":" ++ type = reference) ∧
    (∀ owner name type, IsParts owner name type →
      owner ++ "->" ++ name ++ ":" ++ type = reference →
      (∀ owner' name' type', IsParts owner' name' type' →
        owner' ++ "->" ++ name' ++ ":" ++ type' = reference →
        owner' = owner ∧ name' = name ∧ type' = type) ∧
      ∃ read : FieldId, parse reference = .ok read ∧ read.text = reference ∧
        TypeDescriptor.parse owner = .ok read.owner ∧ read.name = name ∧
        TypeDescriptor.parse type = .ok read.type) ∧
    (parse field.text = .ok field ↔ ∃ owner type, IsParts owner field.name type ∧
      TypeDescriptor.parse owner = .ok field.owner ∧
      TypeDescriptor.parse type = .ok field.type) ∧
    (∀ fault, parse reference = .error fault → fault = .invalidDescriptor reference) := by
  refine ⟨⟨?_, ?_⟩, ?_, ?_, ?_⟩
  · intro h
    obtain ⟨read, hread⟩ := h
    obtain ⟨hformed, htext⟩ := parse_eq_ok_iff.1 hread
    exact ⟨_, _, _, isParts_iff.2 ⟨read, hformed, rfl, rfl, rfl⟩, htext⟩
  · intro h
    obtain ⟨owner, name, type, hparts, rfl⟩ := h
    obtain ⟨read, hread, -⟩ := hparts.exists_parse
    exact ⟨read, hread⟩
  · intro owner name type hparts htext
    subst htext
    refine ⟨fun _ _ _ hother htext => hparts.eq_of_text hother htext, ?_⟩
    obtain ⟨read, hread, rfl, rfl, rfl⟩ := hparts.exists_parse
    obtain ⟨hformed, -⟩ := parse_eq_ok_iff.1 hread
    exact ⟨read, hread, rfl, TypeDescriptor.parse_eq_ok_iff.2 ⟨hformed.owner, rfl⟩, rfl,
      TypeDescriptor.parse_eq_ok_iff.2 ⟨hformed.type, rfl⟩⟩
  · rw [parse_eq_ok_iff, and_iff_left rfl, wellFormed_iff_made]
  · intro fault h
    have hrejected : ¬ ∃ read, parse reference = .ok read := by simp [h]
    simpa [parse_of_rejected hrejected, eq_comm] using h

/-- The class has a `>` before a `-` and a colon, the name an arrow and the type a colon. -/
theorem parse_exactly_references_punctuated :
    IsParts "La>-b:;" "x->y" "[Lc:d;" ∧
    (∀ owner name type, IsParts owner name type →
      owner ++ "->" ++ name ++ ":" ++ type = "La>-b:;->x->y:[Lc:d;" → name = "x->y") ∧
    parse "La>-b:;->x->y:[Lc:d;" =
      .ok ⟨.named "La>-b:;", "x->y", .array (.named "Lc:d;")⟩ := by
  have hclass : TypeDescriptor.parse "La>-b:;" = .ok (.named "La>-b:;") := rfl
  have harray : TypeDescriptor.parse "[Lc:d;" = .ok (.array (.named "Lc:d;")) := rfl
  have hparts : IsParts "La>-b:;" "x->y" "[Lc:d;" :=
    { isOwner := ⟨_, hclass, rfl⟩
      noArrow := by simp [hasArrow_cons, not_hasArrow_nil]
      nonempty := by decide
      noColon := by decide
      isType := ⟨_, harray⟩ }
  obtain ⟨-, hread, -, -⟩ := parse_exactly_references "La>-b:;->x->y:[Lc:d;"
    ⟨.named "La>-b:;", "x->y", .array (.named "Lc:d;")⟩
  obtain ⟨hunique, ⟨readOwner, readName, readType⟩, hok, -, howner, hname, htype⟩ :=
    hread _ _ _ hparts rfl
  refine ⟨hparts, ?_, ?_⟩
  · intro owner name type hother htext
    exact (hunique owner name type hother htext).2.1
  · rw [hclass, Except.ok.injEq] at howner
    rw [harray, Except.ok.injEq] at htype
    subst howner hname htype
    exact hok

end Dalvik.FieldId
