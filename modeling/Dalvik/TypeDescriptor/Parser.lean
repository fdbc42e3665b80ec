import Dalvik.Fault

/-!
# Reading type descriptors

A descriptor is `V`, or any number of `[` before the letter of a primitive or before `L`, a name
of at least one character other than `;`, and `;`. A failure reports the text from the place where
the descriptor broke: what is left after the brackets, the bracket of an array of void, or the
whole text if only the end is wrong.
-/

namespace Dalvik.TypeDescriptor

/-- Reads one descriptor from the front. Answers the type and the rest, or the text that is no
descriptor. -/
def parseFront : List Char → Except (List Char) (TypeDescriptor × List Char)
  | [] => .error []
  | 'V' :: rest => .ok (.void, rest)
  | 'L' :: rest =>
    match rest.takeWhile (· ≠ ';'), rest.dropWhile (· ≠ ';') with
    | name@(_ :: _), _ :: after => .ok (.named (String.ofList ('L' :: name ++ [';'])), after)
    | _, _ => .error ('L' :: rest)
  | '[' :: rest =>
    match parseFront rest with
    | .error broken => .error broken
    | .ok (.void, _) => .error ('[' :: rest)
    | .ok (component, after) => .ok (.array component, after)
  | c :: rest =>
    match Primitive.ofLetter? c with
    | some p => .ok (.primitive p, rest)
    | none => .error (c :: rest)

/-- Reads a text that is one descriptor and nothing else. -/
def parse (descriptor : String) : Except Fault TypeDescriptor :=
  match parseFront descriptor.toList with
  | .ok (type, []) => .ok type
  | .ok (_, _ :: _) => .error (.invalidDescriptor descriptor)
  | .error broken => .error (.invalidDescriptor (String.ofList broken))

end Dalvik.TypeDescriptor
