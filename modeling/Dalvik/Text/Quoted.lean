import Dalvik.Text.Plain

/-!
# Quoted text

Text in double quotes, as it appears in values and in messages. The quote and the backslash are
escaped by a backslash, NUL, tab, line feed and carriage return have a letter each, and any other
character that is not plain is written by its code point. A single quote stands for itself.
-/

namespace Dalvik.Text

def word (value : Bool) : String :=
  if value then "true" else "false"

/-- A number in lower-case hexadecimal, without leading zeros. -/
def hex (n : Nat) : String :=
  String.ofList (Nat.toDigits 16 n)

/-- A number in lower-case hexadecimal, filled with zeros on the left up to `width` digits. -/
def paddedHex (width n : Nat) : String :=
  let digits := Nat.toDigits 16 n
  String.ofList (List.replicate (width - digits.length) '0' ++ digits)

/-- One character as it is written inside quotes. -/
def quotedChar (c : Char) : String :=
  match c with
  | '\x00' => "\\0"
  | '\t' => "\\t"
  | '\n' => "\\n"
  | '\r' => "\\r"
  | '"' => "\\\""
  | '\\' => "\\\\"
  | c => if isPlain c then c.toString else "\\u\x7b" ++ hex c.toNat ++ "\x7d"

def quoted (s : String) : String :=
  "\"" ++ String.join (s.toList.map quotedChar) ++ "\""

end Dalvik.Text
