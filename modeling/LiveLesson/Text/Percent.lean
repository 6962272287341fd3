import LiveLesson.Text.Hex
import LiveLesson.Text.Utf8

/-!
Percent-encoding: a byte is written as a percent sign and two hexadecimal digits. Decoding leaves a
percent sign alone that two digits do not follow.
-/

namespace LiveLesson.Text.Percent

def pair? (hi lo : UInt8) : Option UInt8 :=
  match Hex.value? hi, Hex.value? lo with
  | some h, some l => some (h * 16 + l).toUInt8
  | _, _ => none

def decode : List UInt8 → List UInt8
  | [] => []
  | [a] => [a]
  | [a, b] => [a, b]
  | a :: b :: c :: rest =>
    if a = 0x25 then
      match pair? b c with
      | some byte => byte :: decode rest
      | none => a :: decode (b :: c :: rest)
    else a :: decode (b :: c :: rest)

def encodeByte (b : UInt8) : List Char := '%' :: Hex.byteDigits Hex.upperDigits b

def encodeChar (stays : Char → Bool) (c : Char) : List Char :=
  if stays c then [c] else (Utf8.encodeChar c).flatMap encodeByte

def encode (stays : Char → Bool) (cs : List Char) : List Char := cs.flatMap (encodeChar stays)

end LiveLesson.Text.Percent
