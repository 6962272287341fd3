/-!
Hexadecimal digits: a digit's value, the digit of a value, and the pairs of digits that spell a
byte.
-/

namespace LiveLesson.Text.Hex

def value? (b : UInt8) : Option Nat :=
  if 0x30 ≤ b && b ≤ 0x39 then some (b.toNat - 0x30)
  else if 0x61 ≤ b && b ≤ 0x66 then some (b.toNat - 0x61 + 10)
  else if 0x41 ≤ b && b ≤ 0x46 then some (b.toNat - 0x41 + 10)
  else none

def lowerDigits : List Char := "0123456789abcdef".toList

def upperDigits : List Char := "0123456789ABCDEF".toList

def digit (digits : List Char) (n : Nat) : Char := digits.getD (n % 16) '0'

def byteDigits (digits : List Char) (b : UInt8) : List Char :=
  [digit digits (b.toNat / 16), digit digits b.toNat]

/-- A number in lower-case digits, at least `width` of them. -/
def ofNat (width n : Nat) : String :=
  let ds := Nat.toDigits 16 n
  String.ofList (List.replicate (width - ds.length) '0' ++ ds)

/-- The bytes that pairs of digits spell; a lone or foreign character ends the reading. -/
def bytes : List UInt8 → List UInt8
  | hi :: lo :: rest =>
    match value? hi, value? lo with
    | some h, some l => (h * 16 + l).toUInt8 :: bytes rest
    | _, _ => []
  | _ => []

end LiveLesson.Text.Hex
