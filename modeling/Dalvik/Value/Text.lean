import Dalvik.Value.Basic

/-!
# The text of values

A value is written with its declared type: `Known(1, I)`, `Unknown(Ljava/lang/Object;)`. Long and
floating-point numbers have a letter after their digits, characters are written by their code unit,
and objects by their class only.
-/

namespace Dalvik

mutual

def Payload.text : Payload → String
  | .boolean value => Text.word value
  | .byte value => toString value.toInt
  | .short value => toString value.toInt
  | .char value => "'\\u" ++ Text.paddedHex 4 value.toNat ++ "'"
  | .int value => toString value.toInt
  | .long value => toString value.toInt ++ "L"
  | .float bits => BinaryFormat.single.text bits.toNat ++ "f"
  | .double bits => BinaryFormat.double.text bits.toNat ++ "d"
  | .null => "null"
  | .string value => Text.quoted value
  | .object _ content => content.runtimeClass.text ++ "@instance"
  | .boxed content => "box(" ++ content.text ++ ")"
  | .handle _ content => "field(" ++ content.field.text ++ ")"

def Value.text : Value → String
  | .known payload type => "Known(" ++ payload.text ++ ", " ++ type.text ++ ")"
  | .unknown type => "Unknown(" ++ type.text ++ ")"

end

end Dalvik
