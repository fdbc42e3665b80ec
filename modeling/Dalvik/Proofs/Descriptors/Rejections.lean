import Dalvik.Proofs.Descriptors

/-!
# What is reported of a text that is no descriptor

A text is a number of brackets and a rest. Reading it breaks in one of three places: at the rest,
if it begins no descriptor; at the innermost bracket, if its component is void; or behind a
descriptor that ends too early. The first two are passed on by all brackets further out, and the
third is found last.
-/

namespace Dalvik.TypeDescriptor

/-- The characters with which descriptors begin. -/
def initials : List Char := '[' :: 'V' :: 'L' :: letters

/-- The first semicolon of the text is at byte 2 or later: behind an `L`, it closes a class. -/
def ClosesClass (text : List Char) : Prop :=
  ';' ∈ text ∧ 2 ≤ (String.ofList (text.takeWhile (· ≠ ';'))).utf8ByteSize

instance : DecidablePred ClosesClass :=
  fun _ => inferInstanceAs (Decidable (_ ∧ _))

/-- No descriptor begins here: nothing is left, the first character begins none, or it begins a
class that is not closed. -/
def BreaksAtOnce (text : List Char) : Prop :=
  text = [] ∨ text.head?.any (· ∉ initials) = true ∨ (text.head? = some 'L' ∧ ¬ ClosesClass text)

instance : DecidablePred BreaksAtOnce :=
  fun _ => inferInstanceAs (Decidable (_ ∨ _ ∨ _ ∧ ¬ _))

/-- What is reported of a rejected text that is this many brackets and a rest. -/
def reportedText (depth : Nat) (rest : List Char) : List Char :=
  if BreaksAtOnce rest then rest
  else if rest.head? = some 'V' ∧ 1 ≤ depth then '[' :: rest
  else List.replicate depth '[' ++ rest

variable {type : TypeDescriptor} {descriptor : String} {input rest after : List Char}

/-! ## At the rest -/

/-- Behind an `L`, which is one byte, at least one character has to follow for a second byte. -/
theorem two_le_utf8ByteSize_iff {name : List Char} :
    2 ≤ (String.ofList ('L' :: name)).utf8ByteSize ↔ name ≠ [] := by
  have hletter : 'L'.utf8Size = 1 := rfl
  have hname : 0 < (String.ofList name).utf8ByteSize ↔ name ≠ [] := by
    rw [Nat.pos_iff_ne_zero, ne_eq, String.utf8ByteSize_eq_zero_iff, String.ofList_eq_empty_iff]
  rw [String.ofList_cons, String.utf8ByteSize_append, String.utf8ByteSize_singleton, hletter,
    ← hname]
  omega

/-- A class is closed if a name stands between the `L` and the first semicolon. -/
theorem closesClass_iff :
    ClosesClass ('L' :: rest) ↔
      ∃ name after, name ≠ [] ∧ ';' ∉ name ∧ rest = name ++ ';' :: after := by
  have htake {name : List Char} (hname : ';' ∉ name) (after : List Char) :
      ('L' :: (name ++ ';' :: after)).takeWhile (· ≠ ';') = 'L' :: name := by
    have hinside : ∀ c ∈ 'L' :: name, decide (c ≠ ';') = true := by grind
    rw [← List.cons_append, List.takeWhile_append_of_pos hinside]
    simp
  constructor
  · rintro ⟨hmem, hbytes⟩
    have hrest : ';' ∈ rest := by simpa using hmem
    obtain ⟨name, after, rfl, hsemicolon⟩ := List.eq_append_cons_of_mem hrest
    rw [htake hsemicolon, two_le_utf8ByteSize_iff] at hbytes
    exact ⟨name, after, hbytes, hsemicolon, rfl⟩
  · rintro ⟨name, after, hname, hsemicolon, rfl⟩
    exact ⟨by simp, by rwa [htake hsemicolon, two_le_utf8ByteSize_iff]⟩

/-- A class that is not closed is left as it is. -/
theorem parseFront_of_not_closesClass (h : ¬ ClosesClass ('L' :: rest)) :
    parseFront ('L' :: rest) = .error ('L' :: rest) := by
  rw [parseFront]
  split
  · rename_i c name closing after htake hdrop
    obtain ⟨hname, hrest⟩ := split_of_semicolon htake hdrop
    exact absurd (closesClass_iff.2 ⟨c :: name, after, List.cons_ne_nil c name, hname, hrest⟩) h
  · rfl

/-- Any other character is the letter of a primitive type, or no descriptor begins with it. -/
theorem parseFront_letter {c : Char} (hvoid : c ≠ 'V') (hclass : c ≠ 'L') (hbracket : c ≠ '[')
    (rest : List Char) :
    (c ∉ letters ∧ parseFront (c :: rest) = .error (c :: rest)) ∨
    (c ∈ letters ∧ ∃ p, parseFront (c :: rest) = .ok (.primitive p, rest)) := by
  cases hfound : Primitive.ofLetter? c with
  | none =>
    refine .inl ⟨fun hmem => ?_, by rw [parseFront, hfound] <;> assumption⟩
    obtain ⟨p, hp⟩ := mem_letters.1 hmem
    have hall : p ∈ Primitive.all := by cases p <;> decide
    simpa [hp] using List.find?_eq_none.1 hfound p hall
  | some p =>
    have hp : p.letter = c := by simpa using List.find?_some hfound
    exact .inr ⟨mem_letters.2 ⟨p, hp⟩, p, by rw [parseFront, hfound] <;> assumption⟩

/-- What does not begin with a bracket breaks at once, or a descriptor is read: that of void just
if it begins with `V`. -/
theorem parseFront_rest (hopen : rest.head? ≠ some '[') :
    (BreaksAtOnce rest ∧ parseFront rest = .error rest) ∨
    (¬ BreaksAtOnce rest ∧ ∃ type after,
      parseFront rest = .ok (type, after) ∧ (type = void ↔ rest.head? = some 'V')) := by
  cases rest with
  | nil => exact .inl ⟨.inl rfl, rfl⟩
  | cons c more =>
    by_cases hvoid : c = 'V'
    · subst hvoid
      exact .inr ⟨by simp [BreaksAtOnce, initials], void, more, rfl, by simp⟩
    by_cases hclass : c = 'L'
    · subst hclass
      by_cases hclosed : ClosesClass ('L' :: more)
      · obtain ⟨name, after, hname, hsemicolon, rfl⟩ := closesClass_iff.1 hclosed
        exact .inr ⟨by simp [BreaksAtOnce, initials, hclosed], _, after,
          parseFront_class hname hsemicolon after, by simp⟩
      · exact .inl ⟨.inr (.inr ⟨rfl, hclosed⟩), parseFront_of_not_closesClass hclosed⟩
    have hbracket : c ≠ '[' := fun h => hopen (h ▸ rfl)
    rcases parseFront_letter hvoid hclass hbracket more with
      ⟨hstranger, hread⟩ | ⟨hletter, p, hread⟩
    · refine .inl ⟨.inr (.inl ?_), hread⟩
      simp [initials, hbracket, hvoid, hclass, hstranger]
    · refine .inr ⟨by simp [BreaksAtOnce, initials, hletter, hclass], .primitive p, more, hread, ?_⟩
      simpa using hvoid

/-! ## Through the brackets -/

/-- What broke behind the brackets is passed on by all of them. -/
theorem parseFront_brackets_of_error {broken : List Char} (h : parseFront rest = .error broken)
    (depth : Nat) : parseFront (List.replicate depth '[' ++ rest) = .error broken := by
  induction depth with
  | zero => exact h
  | succ depth ih => rw [List.replicate_succ, List.cons_append, parseFront, ih]

/-- The innermost bracket has void for its component. -/
theorem parseFront_brackets_of_void (h : parseFront rest = .ok (void, after)) (depth : Nat) :
    parseFront (List.replicate (depth + 1) '[' ++ rest) = .error ('[' :: rest) := by
  have hinner : parseFront ('[' :: rest) = .error ('[' :: rest) := by rw [parseFront, h]
  have houter := parseFront_brackets_of_error hinner depth
  rwa [List.replicate_succ', List.append_assoc]

/-- Any other type becomes the component of arrays, as many as there are brackets. -/
theorem parseFront_brackets_of_ok (h : parseFront rest = .ok (type, after)) (hvoid : type ≠ void)
    (depth : Nat) :
    ∃ outer, outer ≠ void ∧ parseFront (List.replicate depth '[' ++ rest) = .ok (outer, after) := by
  induction depth with
  | zero => exact ⟨type, hvoid, h⟩
  | succ depth ih =>
    obtain ⟨component, hcomponent, hread⟩ := ih
    refine ⟨.array component, nofun, ?_⟩
    rw [List.replicate_succ, List.cons_append, parseFront, hread]
    cases component with
    | void => exact absurd rfl hcomponent
    | _ => rfl

/-! ## Behind a descriptor -/

theorem parse_of_error {broken : List Char} (h : parseFront descriptor.toList = .error broken) :
    parse descriptor = .error (.invalidDescriptor (String.ofList broken)) := by
  rw [parse, h]

/-- A text with a descriptor in front is rejected only if something follows, and is then reported
as a whole. -/
theorem parse_of_front (h : parseFront descriptor.toList = .ok (type, after))
    (hrejected : ∀ type, parse descriptor ≠ .ok type) :
    parse descriptor = .error (.invalidDescriptor descriptor) ∧
      ∃ front, IsDescriptor front ∧ after ≠ [] ∧ descriptor.toList = front ++ after := by
  cases after with
  | nil => exact absurd (by rw [parse, h]) (hrejected type)
  | cons c more =>
    obtain ⟨hformed, htext⟩ := text_of_parseFront h
    exact ⟨by rw [parse, h], type.text.toList, isDescriptor_iff.2 ⟨type, hformed, rfl⟩,
      List.cons_ne_nil c more, htext.symm⟩

/-! ## What is reported -/

/-- The innermost bracket and what follows it. -/
theorem suffix_brackets (depth : Nat) (rest : List Char) :
    '[' :: rest <:+ List.replicate (depth + 1) '[' ++ rest :=
  ⟨List.replicate depth '[', by rw [List.replicate_succ', List.append_assoc]; rfl⟩

theorem reportedText_suffix (depth : Nat) (rest : List Char) :
    reportedText depth rest <:+ List.replicate depth '[' ++ rest := by
  unfold reportedText
  split
  · exact List.suffix_append _ rest
  · split
    · rename_i hvoid
      obtain ⟨outer, rfl⟩ := Nat.exists_eq_add_of_le' hvoid.2
      exact suffix_brackets outer rest
    · exact List.suffix_refl _

/-- What is rejected is reported by the place where it broke. -/
theorem parse_of_rejected_brackets {depth : Nat} (hrejected : ∀ type, parse descriptor ≠ .ok type)
    (hsplit : descriptor.toList = List.replicate depth '[' ++ rest)
    (hopen : rest.head? ≠ some '[') :
    parse descriptor = .error (.invalidDescriptor (String.ofList (reportedText depth rest))) ∧
      (¬ BreaksAtOnce rest → ¬ (rest.head? = some 'V' ∧ 1 ≤ depth) →
        ∃ front after, IsDescriptor front ∧ after ≠ [] ∧ descriptor.toList = front ++ after) := by
  rcases parseFront_rest hopen with ⟨hbreaks, hread⟩ | ⟨hbegins, type, after, hread, htype⟩
  · have hbroken := parseFront_brackets_of_error hread depth
    rw [← hsplit] at hbroken
    rw [reportedText, if_pos hbreaks]
    exact ⟨parse_of_error hbroken, fun hbegins => absurd hbreaks hbegins⟩
  · rw [reportedText, if_neg hbegins]
    by_cases hvoid : rest.head? = some 'V' ∧ 1 ≤ depth
    · obtain ⟨outer, rfl⟩ := Nat.exists_eq_add_of_le' hvoid.2
      rw [htype.2 hvoid.1] at hread
      have hbroken := parseFront_brackets_of_void hread outer
      rw [← hsplit] at hbroken
      rw [if_pos hvoid]
      exact ⟨parse_of_error hbroken, fun _ hno => absurd hvoid hno⟩
    · obtain ⟨outer, houter⟩ : ∃ outer, parseFront descriptor.toList = .ok (outer, after) := by
        rw [hsplit]
        by_cases hbare : type = void
        · have hdepth : depth = 0 :=
            Nat.eq_zero_of_not_pos fun hdepth => hvoid ⟨htype.1 hbare, hdepth⟩
          exact ⟨type, hdepth ▸ hread⟩
        · obtain ⟨outer, -, houter⟩ := parseFront_brackets_of_ok hread hbare depth
          exact ⟨outer, houter⟩
      obtain ⟨hwhole, front, hfront, hafter, htext⟩ := parse_of_front houter hrejected
      rw [if_neg hvoid, ← hsplit, String.ofList_toList]
      exact ⟨hwhole, fun _ _ => ⟨front, after, hfront, hafter, htext⟩⟩

/-- Every text is a number of brackets and a rest. -/
theorem exists_brackets_rest (text : List Char) :
    ∃ (depth : Nat) (rest : List Char),
      text = List.replicate depth '[' ++ rest ∧ rest.head? ≠ some '[' := by
  induction text with
  | nil => exact ⟨0, [], rfl, nofun⟩
  | cons c more ih =>
    by_cases hopen : c = '['
    · obtain ⟨depth, rest, rfl, hrest⟩ := ih
      exact ⟨depth + 1, rest, by rw [hopen, List.replicate_succ, List.cons_append], hrest⟩
    · exact ⟨0, c :: more, rfl, by simpa using hopen⟩

/-- What is reported of a rejected text depends on where it broke: the rest behind the brackets if
no descriptor begins there, else the innermost bracket with the rest if its component is void, and
else the whole text, which then is a descriptor and something behind it. It is the end of the text
in each case. -/
theorem rejection_reports_break (hrejected : ∀ type, parse descriptor ≠ .ok type) :
    (∃ (depth : Nat) (rest : List Char),
      descriptor.toList = List.replicate depth '[' ++ rest ∧ rest.head? ≠ some '[') ∧
    ∀ (depth : Nat) (rest : List Char),
      descriptor.toList = List.replicate depth '[' ++ rest → rest.head? ≠ some '[' →
      parse descriptor = .error (.invalidDescriptor (String.ofList (reportedText depth rest))) ∧
      (¬ BreaksAtOnce rest → ¬ (rest.head? = some 'V' ∧ 1 ≤ depth) →
        ∃ front after, IsDescriptor front ∧ after ≠ [] ∧ descriptor.toList = front ++ after) ∧
      reportedText depth rest <:+ descriptor.toList := by
  refine ⟨exists_brackets_rest descriptor.toList, fun depth rest hsplit hopen => ?_⟩
  obtain ⟨hreported, htrailing⟩ := parse_of_rejected_brackets hrejected hsplit hopen
  exact ⟨hreported, htrailing, hsplit ▸ reportedText_suffix depth rest⟩

/-- An array of arrays of void, with something behind it: the inner bracket is reported. -/
theorem rejection_reports_break_void :
    (∀ type, parse "[[VI" ≠ .ok type) ∧
    parse "[[VI" = .error (.invalidDescriptor (String.ofList (reportedText 2 ['V', 'I']))) ∧
    String.ofList (reportedText 2 ['V', 'I']) = "[VI" := by
  have hread : parse "[[VI" = .error (.invalidDescriptor "[VI") := rfl
  have hrejected : ∀ type, parse "[[VI" ≠ .ok type := by simp [hread]
  exact ⟨hrejected, ((rejection_reports_break hrejected).2 2 ['V', 'I'] (by decide) (by decide)).1,
    by decide⟩

end Dalvik.TypeDescriptor
