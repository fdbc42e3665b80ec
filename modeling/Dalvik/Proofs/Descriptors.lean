import Dalvik.TypeDescriptor.Parser

/-!
# Descriptors and their types

Which texts are descriptors, said as a grammar, and which types are the meaning of one. A text that
is a descriptor is read as the only well-formed type with that text; all others are rejected. A type
that was made without a look at its text may have one that is no descriptor, or that is the
descriptor of another type: that is so just if the text of a class in it is not that of a class, or
an array in it is one of void.
-/

namespace Dalvik.TypeDescriptor

/-- `L`, at least one character other than `;`, and `;`. -/
def IsClassText (text : List Char) : Prop :=
  ∃ name, name ≠ [] ∧ ';' ∉ name ∧ text = 'L' :: name ++ [';']

/-- The letters of the primitive types. -/
def letters : List Char := ['Z', 'B', 'S', 'C', 'I', 'J', 'F', 'D']

/-- The letter of a primitive type, or the text of a class. -/
def IsElementText (text : List Char) : Prop :=
  (∃ letter ∈ letters, text = [letter]) ∨ IsClassText text

/-- `V`, or any number of `[` before the letter of a primitive type or the text of a class. -/
def IsDescriptor (text : List Char) : Prop :=
  text = ['V'] ∨ ∃ (depth : Nat) (element : List Char),
    IsElementText element ∧ text = List.replicate depth '[' ++ element

/-- Every class in the type has the text of a class, and no array in it is one of void. -/
def WellFormed : TypeDescriptor → Prop
  | void | primitive _ => True
  | named descriptor => IsClassText descriptor.toList
  | array component => component ≠ void ∧ component.WellFormed

variable {type : TypeDescriptor} {descriptor : String} {input rest : List Char}

/-! ## Reading the front of a text -/

/-- The text of a class ends at its first semicolon. -/
theorem parseFront_class {name : List Char} (hname : name ≠ []) (hsemicolon : ';' ∉ name)
    (rest : List Char) :
    parseFront ('L' :: (name ++ ';' :: rest)) =
      .ok (.named (String.ofList ('L' :: name ++ [';'])), rest) := by
  have hinside : ∀ c ∈ name, decide (c ≠ ';') = true := by
    intro c hc
    simpa using fun heq : c = ';' => hsemicolon (heq ▸ hc)
  have htake : (name ++ ';' :: rest).takeWhile (fun c => decide (c ≠ ';')) = name := by
    rw [List.takeWhile_append_of_pos hinside]
    simp
  have hdrop : (name ++ ';' :: rest).dropWhile (fun c => decide (c ≠ ';')) = ';' :: rest := by
    rw [List.dropWhile_append_of_pos hinside]
    simp
  obtain ⟨first, more, rfl⟩ := List.exists_cons_of_ne_nil hname
  rw [parseFront, htake, hdrop]

/-- A text before a semicolon that is not empty, and what comes after it. -/
theorem split_of_semicolon {c closing : Char} {name after : List Char}
    (htake : input.takeWhile (fun c => decide (c ≠ ';')) = c :: name)
    (hdrop : input.dropWhile (fun c => decide (c ≠ ';')) = closing :: after) :
    ';' ∉ c :: name ∧ input = c :: name ++ ';' :: after := by
  have hend : closing = ';' := by
    have hhead := List.head_dropWhile_not (fun c => decide (c ≠ ';'))
      (hdrop ▸ List.cons_ne_nil closing after)
    simpa only [hdrop, List.head_cons, ne_eq, decide_eq_false_iff_not, Decidable.not_not]
      using hhead
  have hsplit := List.takeWhile_append_dropWhile (p := fun c => decide (c ≠ ';')) (l := input)
  rw [htake, hdrop, hend] at hsplit
  have hinside := List.all_takeWhile (p := fun c => decide (c ≠ ';')) (l := input)
  rw [htake, List.all_eq_true] at hinside
  exact ⟨fun hmem => by simpa using hinside ';' hmem, hsplit.symm⟩

/-- A well-formed type is read from its text, whatever follows. -/
theorem parseFront_text (h : type.WellFormed) (rest : List Char) :
    parseFront (type.text.toList ++ rest) = .ok (type, rest) := by
  induction type with
  | void => rfl
  | primitive p => cases p <;> rfl
  | named descriptor =>
    obtain ⟨name, hname, hsemicolon, htext⟩ := h
    have hread := parseFront_class hname hsemicolon rest
    rw [← htext, String.ofList_toList] at hread
    rw [← hread, text, htext]
    simp
  | array component ih =>
    obtain ⟨hvoid, hcomponent⟩ := h
    have htext : (array component).text.toList ++ rest =
        '[' :: (component.text.toList ++ rest) := by simp [text]
    rw [htext, parseFront, ih hcomponent]
    cases component with
    | void => exact absurd rfl hvoid
    | _ => rfl

/-- Only a well-formed type is read, and its text stood in front. -/
theorem text_of_parseFront (h : parseFront input = .ok (type, rest)) :
    type.WellFormed ∧ type.text.toList ++ rest = input := by
  fun_induction parseFront input generalizing type rest with
  | case1 => cases h
  | case2 after =>
    cases h
    exact ⟨trivial, rfl⟩
  | case3 after c name _ remaining hdrop htake =>
    cases h
    obtain ⟨hsemicolon, rfl⟩ := split_of_semicolon htake hdrop
    refine ⟨⟨c :: name, List.cons_ne_nil c name, hsemicolon, by simp⟩, by simp [text]⟩
  | case4 => cases h
  | case5 => cases h
  | case6 => cases h
  | case7 after component remaining hvoid hfront ih =>
    cases h
    obtain ⟨hcomponent, htext⟩ := ih hfront
    exact ⟨⟨hvoid, hcomponent⟩, by simp [text, htext]⟩
  | case8 c after _ _ _ p hletter =>
    cases h
    have hp : p.letter = c := by simpa using List.find?_some hletter
    exact ⟨trivial, by simp [text, hp]⟩
  | case9 => cases h

/-! ## Reading a whole text -/

theorem parse_eq_ok_iff :
    parse descriptor = .ok type ↔ type.WellFormed ∧ type.text = descriptor := by
  constructor
  · intro h
    unfold parse at h
    split at h
    · rename_i found hfront
      cases h
      obtain ⟨hformed, htext⟩ := text_of_parseFront hfront
      exact ⟨hformed, String.toList_inj.1 (by simpa using htext)⟩
    · cases h
    · cases h
  · rintro ⟨hformed, rfl⟩
    have hfront := parseFront_text hformed []
    rw [List.append_nil] at hfront
    rw [parse, hfront]

/-! ## The grammar -/

theorem mem_letters {c : Char} : c ∈ letters ↔ ∃ p : Primitive, p.letter = c := by
  have hletters : letters = Primitive.all.map Primitive.letter := rfl
  have hall (p : Primitive) : p ∈ Primitive.all := by cases p <;> decide
  simp [hletters, hall]

/-- The text of a type that may stand in an array is brackets before an element. -/
theorem exists_brackets (h : type.WellFormed) (hvoid : type ≠ void) :
    ∃ (depth : Nat) (element : List Char),
      IsElementText element ∧ type.text.toList = List.replicate depth '[' ++ element := by
  induction type with
  | void => exact absurd rfl hvoid
  | primitive p =>
    exact ⟨0, [p.letter], .inl ⟨p.letter, mem_letters.2 ⟨p, rfl⟩, rfl⟩, by simp [text]⟩
  | named descriptor => exact ⟨0, descriptor.toList, .inr h, rfl⟩
  | array component ih =>
    obtain ⟨depth, element, helement, htext⟩ := ih h.2 h.1
    exact ⟨depth + 1, element, helement, by simp [text, htext, List.replicate_succ]⟩

/-- Every such text is that of a type. -/
theorem exists_of_brackets {element : List Char} (h : IsElementText element) (depth : Nat) :
    ∃ type : TypeDescriptor, type ≠ void ∧ type.WellFormed ∧
      type.text.toList = List.replicate depth '[' ++ element := by
  induction depth with
  | zero =>
    rcases h with ⟨letter, hletter, rfl⟩ | hclass
    · obtain ⟨p, rfl⟩ := mem_letters.1 hletter
      exact ⟨.primitive p, nofun, trivial, by simp [text]⟩
    · have hformed : (TypeDescriptor.named (String.ofList element)).WellFormed := by
        simpa [WellFormed] using hclass
      exact ⟨.named (String.ofList element), nofun, hformed, by simp [text]⟩
  | succ depth ih =>
    obtain ⟨component, hvoid, hformed, htext⟩ := ih
    exact ⟨.array component, nofun, ⟨hvoid, hformed⟩, by simp [text, htext, List.replicate_succ]⟩

theorem isDescriptor_iff :
    IsDescriptor input ↔ ∃ type : TypeDescriptor, type.WellFormed ∧ type.text.toList = input := by
  constructor
  · rintro (rfl | ⟨depth, element, helement, rfl⟩)
    · exact ⟨.void, trivial, rfl⟩
    · obtain ⟨type, -, hformed, htext⟩ := exists_of_brackets helement depth
      exact ⟨type, hformed, htext⟩
  · rintro ⟨type, hformed, rfl⟩
    by_cases hvoid : type = void
    · subst hvoid
      exact .inl rfl
    · exact .inr (exists_brackets hformed hvoid)

/-- Exactly the descriptors are read, each as the one well-formed type with that text; and of all
types, also those made without a look at their text, exactly the well-formed ones are read back from
their text. -/
theorem reading_inverts_text (descriptor : String) (type : TypeDescriptor) :
    ((∃ read, parse descriptor = .ok read) ↔ IsDescriptor descriptor.toList) ∧
    (parse descriptor = .ok type ↔ type.WellFormed ∧ type.text = descriptor) ∧
    (parse type.text = .ok type ↔ type.WellFormed) := by
  refine ⟨?_, parse_eq_ok_iff, parse_eq_ok_iff.trans (and_iff_left rfl)⟩
  simp only [parse_eq_ok_iff, isDescriptor_iff, String.toList_inj]

end Dalvik.TypeDescriptor
