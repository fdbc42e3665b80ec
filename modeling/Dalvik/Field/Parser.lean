import Dalvik.TypeDescriptor.Parser

/-!
# Reading field identities

A field identity is written `Lpkg/Owner;->name:Type`. The owner ends at the first `->` and the name
at the first `:` after it. Whatever is wrong, a failure reports the whole text.
-/

namespace Dalvik.FieldId

/-- Splits a text at the first arrow, which is left out. -/
def splitArrow : List Char → Option (List Char × List Char)
  | [] => none
  | '-' :: '>' :: rest => some ([], rest)
  | c :: rest => (splitArrow rest).map fun (before, after) => (c :: before, after)

/-- Splits a text at the first colon, which is left out. -/
def splitColon : List Char → Option (List Char × List Char)
  | [] => none
  | ':' :: rest => some ([], rest)
  | c :: rest => (splitColon rest).map fun (before, after) => (c :: before, after)

/-- Reads a field identity: the owner is a class or an array, and the name is not empty. -/
def parse? (reference : String) : Option FieldId := do
  let (owner, member) ← splitArrow reference.toList
  let (name, type) ← splitColon member
  if name.isEmpty then none
  else
    let owner ← (TypeDescriptor.parse (String.ofList owner)).toOption
    if owner.isReference then
      let type ← (TypeDescriptor.parse (String.ofList type)).toOption
      some ⟨owner, String.ofList name, type⟩
    else none

/-- Reads a field identity; a failure carries the whole text. -/
def parse (reference : String) : Except Fault FieldId :=
  match parse? reference with
  | some field => .ok field
  | none => .error (.invalidDescriptor reference)

end Dalvik.FieldId
