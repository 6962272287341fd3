import LiveLesson.Text.Blank
import LiveLesson.Text.Lowercase
import LiveLesson.Text.Printable
import LiveLesson.Text.Split
import LiveLesson.Text.Utf8
import LiveLesson.Url.Punycode

/-!
Domain names in their ASCII form. Letters become small, wide forms narrow, and some characters
vanish; a label that is not ASCII then is written in punycode. Compatibility forms are not
decomposed and marks not composed.
-/

namespace LiveLesson.Url.Domain

open Text

def isDropped (c : Char) : Bool :=
  let n := c.toNat
  n == 0xAD || n == 0x34F || (0x180B ≤ n && n ≤ 0x180F) || n == 0x200B || n ==
    0x2060 || n == 0x2064 ||
    (0xFE00 ≤ n && n ≤ 0xFE0F) || n == 0xFEFF || (0xE0100 ≤ n && n ≤ 0xE01EF)

/-- The full stops of other scripts separate labels too. -/
def narrow (c : Char) : Char :=
  let n := c.toNat
  if n == 0x3002 || n == 0xFF61 then '.'
  else if 0xFF01 ≤ n && n ≤ 0xFF5E then Char.ofNat (n - 0xFEE0)
  else c

def fold (cs : List Char) : List Char := lowerChars ((cs.filter fun c => !isDropped c).map narrow)

def isForbidden (c : Char) : Bool :=
  c.toNat ≤ 0x20 || c.toNat == 0x7F || "%#/:<>?@[\\]^|".toList.contains c

def disallowedRanges : List (Nat × Nat) := [
  (0x80, 0x9F), (0x61C, 0x61C), (0x200C, 0x200F), (0x202A, 0x202E), (0x2061, 0x206F),
  (0xE000, 0xF8FF),
  (0xFDD0, 0xFDEF), (0xFFF0, 0xFFFF), (0xE0000, 0xE00FF), (0xF0000, 0x10FFFF)]

def isAllowed (c : Char) : Bool := !isBlank c && !inRanges c.toNat disallowedRanges

def isAscii (cs : List Char) : Bool := cs.all fun c => c.toNat < 0x80

def punycodeMark : List Char := ['x', 'n', '-', '-']

/-- A label beyond ASCII holds folded and allowed characters only; what joins the character before
it may not stand first. -/
def isProper (label : List Char) : Bool :=
  !isAscii label && fold label == label &&
    match label with
    | [] => false
    | first :: rest =>
      (first.toNat < 0x80 || isShown first && isAllowed first) &&
        rest.all fun c => c.toNat < 0x80 || isAllowed c

/-- A label in ASCII. One that already is in punycode has to stand for a proper label. -/
def label? (label : List Char) : Option (List Char) :=
  if label.take 4 = punycodeMark then
    match Punycode.decode? (label.drop 4) with
    | some decoded => if isAscii label && isProper decoded then some label else none
    | none => none
  else if isAscii label then some label
  else if isProper label then some (punycodeMark ++ Punycode.encode label)
  else none

/-- A name in ASCII; `none` if a label is not proper or a forbidden character stands in it. -/
def ascii? (cs : List Char) : Option (List Char) := do
  let folded := fold cs
  if folded.any fun c => c.toNat < 0x80 && isForbidden c then none
  else
    let labels ← (split '.' folded).mapM label?
    return ['.'].intercalate labels

def ofBytes? (bytes : List UInt8) : Option (List Char) :=
  (Utf8.decode? bytes).bind fun s => ascii? s.toList

end LiveLesson.Url.Domain
