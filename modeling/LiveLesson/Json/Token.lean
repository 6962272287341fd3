import LiveLesson.Json.Problem
import LiveLesson.Text.Utf8

/-!
The words, numbers and strings of a JSON text, read from its bytes. A reader takes what it needs
from the front and leaves the rest. Integers keep their value up to 64 bits and become
floating-point numbers beyond; a number with a fraction or an exponent is its digits as an integer,
rounded, then multiplied or divided by a rounded power of ten, so the last bit of a long literal is
that of those two steps.
-/

namespace LiveLesson.Json

abbrev Reader := StateT (List UInt8) (Except Failure)

namespace Reader

def failHere {α : Type} (p : Problem) : Reader α := fun rest => .error ⟨p, rest, []⟩

/-- Fails just behind the next byte, which is the one that was found wrong. -/
def failNext {α : Type} (p : Problem) : Reader α := fun rest => .error ⟨p, rest.drop 1, []⟩

def within {α : Type} (s : Step) (r : Reader α) : Reader α :=
  fun rest => (r rest).mapError (Failure.within s)

def peek : Reader (Option UInt8) := fun rest => .ok (rest.head?, rest)

def advance : Reader Unit := fun rest => .ok ((), rest.drop 1)

def next : Reader (Option UInt8) := fun rest => .ok (rest.head?, rest.drop 1)

end Reader

open Reader

def isSpace (b : UInt8) : Bool := b = 0x20 || b = 0x0A || b = 0x09 || b = 0x0D

def isDigit (b : UInt8) : Bool := 0x30 ≤ b && b ≤ 0x39

def byte (c : Char) : UInt8 := c.toNat.toUInt8

def nextToken : Reader (Option UInt8) := fun rest =>
  let rest := rest.dropWhile isSpace
  .ok (rest.head?, rest)

def word : List UInt8 → Reader Unit
  | [] => pure ()
  | b :: bs => do
    match ← next with
    | none => failHere .endOfValue
    | some c => if c = b then word bs else failHere .expectedWord

inductive Numeral where
  | integer (n : Int)
  | float (x : Binary64)
  deriving DecidableEq, Repr

def Numeral.found : Numeral → Found
  | .integer n => .integer n
  | .float x => .float x

/-- Significands are collected while they fit 64 bits. -/
def significandLimit : Nat := Nat.pow 2 64

def exponentLimit : Nat := Nat.pow 2 31

/-- Divides by powers of ten that are themselves numbers, the largest first. -/
def scaleDown (x : Binary64) : Nat → Nat → Binary64
  | 0, _ => Binary64.zero false
  | fuel + 1, e =>
    if e ≤ 308 then x.dividedBy (Binary64.ofDecimal false 1 e)
    else if x.isZero then x
    else scaleDown (x.dividedBy (Binary64.ofDecimal false 1 308)) fuel (e - 308)

/-- The number `significand · 10 ^ exponent`; `none` if it is too large. -/
def scaled (positive : Bool) (significand : Nat) (exponent : Int) : Option Binary64 :=
  let x := Binary64.ofNat significand
  let size : Option Binary64 :=
    match exponent with
    | .ofNat e =>
      if e ≤ 308 then
        match x.timesNat (Binary64.ofDecimal false 1 e) with
        | .infinite _ => none
        | y => some y
      else if x.isZero then some x
      else none
    | .negSucc e => some (scaleDown x 4 (e + 1))
  size.map fun y => if positive then y else y.negate

def finish (positive : Bool) (significand : Nat) (exponent : Int) : Reader Binary64 :=
  match scaled positive significand exponent with
  | some x => pure x
  | none => failHere .numberOutOfRange

def skipDigits : Reader Unit := fun rest => .ok ((), rest.dropWhile isDigit)

def exponentDigits : Nat → List UInt8 → Option Nat × List UInt8
  | e, b :: bs =>
    if isDigit b then
      let e' := e * 10 + (b.toNat - 0x30)
      if exponentLimit ≤ e' then (none, bs) else exponentDigits e' bs
    else (some e, b :: bs)
  | e, [] => (some e, [])

def clampExponent (e : Int) : Int :=
  max (-(exponentLimit : Int)) (min ((exponentLimit : Int) - 1) e)

def exponentPart (positive : Bool) (significand : Nat) (start : Int) : Reader Binary64 := do
  advance
  let up ← match ← peek with
    | some 0x2B => do advance; pure true
    | some 0x2D => do advance; pure false
    | _ => pure true
  match ← next with
  | none => failHere .endOfValue
  | some b =>
    if !isDigit b then failHere .invalidNumber
    else
      let (e, rest) := exponentDigits (b.toNat - 0x30) (← get)
      set rest
      match e with
      | some e => finish positive significand (clampExponent (if up then start + e else start - e))
      | none =>
        if significand ≠ 0 && up then failHere .numberOutOfRange
        else do
          skipDigits
          pure (Binary64.zero (!positive))

/-- Collects digits as long as the significand fits; the flag says whether a digit was refused. -/
def collect : Nat → Nat → List UInt8 → Nat × Nat × Bool × List UInt8
  | significand, count, b :: bs =>
    if isDigit b then
      let s := significand * 10 + (b.toNat - 0x30)
      if significandLimit ≤ s then (significand, count, true, b :: bs) else collect s (count + 1) bs
    else (significand, count, false, b :: bs)
  | significand, count, [] => (significand, count, false, [])

def afterDigits (positive : Bool) (significand : Nat) (exponent : Int) : Reader Binary64 := do
  match ← peek with
  | some 0x65 => exponentPart positive significand exponent
  | some 0x45 => exponentPart positive significand exponent
  | _ => finish positive significand exponent

/-- The fraction part, from its point on. Digits beyond the limit are dropped. -/
def fractionPart (positive : Bool) (significand : Nat) (start : Int) : Reader Binary64 := do
  advance
  let (s, count, full, rest) := collect significand 0 (← get)
  set rest
  if full then do
    skipDigits
    afterDigits positive s (start - count)
  else if count = 0 then
    match rest with
    | [] => failNext .endOfValue
    | _ => failNext .invalidNumber
  else afterDigits positive s (start - count)

/-- The integer digits beyond the limit count as zeros. -/
def longInteger (positive : Bool) (significand : Nat) : Reader Binary64 := do
  let rest ← get
  let more := rest.takeWhile isDigit
  set (rest.drop more.length)
  match ← peek with
  | some 0x2E => fractionPart positive significand more.length
  | _ => afterDigits positive significand more.length

def numberTail (positive : Bool) (significand : Nat) : Reader Numeral := do
  match ← peek with
  | some 0x2E => .float <$> fractionPart positive significand 0
  | some 0x65 => .float <$> exponentPart positive significand 0
  | some 0x45 => .float <$> exponentPart positive significand 0
  | _ =>
    pure <|
      if positive then .integer significand
      else if significand = 0 || Nat.pow 2 63 < significand then
        .float (Binary64.ofNat significand).negate
      else .integer (-(significand : Int))

def unsignedNumber (positive : Bool) : Reader Numeral := do
  match ← next with
  | none => failHere .endOfValue
  | some b =>
    if b = 0x30 then
      match ← peek with
      | some c => if isDigit c then failNext .invalidNumber else numberTail positive 0
      | none => numberTail positive 0
    else if isDigit b then
      let (s, _, full, rest) := collect (b.toNat - 0x30) 0 (← get)
      set rest
      if full then .float <$> longInteger positive s else numberTail positive s
    else failHere .invalidNumber

def number (b : UInt8) : Reader Numeral :=
  if b = 0x2D then do
    advance
    unsignedNumber false
  else unsignedNumber true

def startsNumber (b : UInt8) : Bool := b = 0x2D || isDigit b

def hexEscape : Reader Nat := fun rest =>
  match rest with
  | a :: b :: c :: d :: after =>
    match Text.Hex.value? a, Text.Hex.value? b, Text.Hex.value? c, Text.Hex.value? d with
    | some w, some x, some y, some z => .ok (((w * 16 + x) * 16 + y) * 16 + z, after)
    | _, _, _, _ => .error ⟨.invalidEscape, after, []⟩
  | _ => .error ⟨.endOfString, [], []⟩

def demand (b : UInt8) : Reader Unit := do
  match ← next with
  | none => failHere .endOfString
  | some c => if c = b then pure () else failHere .endOfHexEscape

/-- The character of a `\u` escape; a surrogate has to be paired. -/
def unicodeEscape : Reader Char := do
  let n ← hexEscape
  if 0xDC00 ≤ n && n ≤ 0xDFFF then failHere .loneSurrogate
  else if n < 0xD800 || 0xDBFF < n then pure (Char.ofNat n)
  else do
    demand (byte '\\')
    demand (byte 'u')
    let low ← hexEscape
    if low < 0xDC00 || 0xDFFF < low then failHere .loneSurrogate
    else pure (Char.ofNat (0x10000 + (n - 0xD800) * 0x400 + (low - 0xDC00)))

def shortEscape? (b : UInt8) : Option UInt8 :=
  if b = byte '"' || b = byte '\\' || b = byte '/' then some b
  else if b = byte 'b' then some 0x08
  else if b = byte 'f' then some 0x0C
  else if b = byte 'n' then some 0x0A
  else if b = byte 'r' then some 0x0D
  else if b = byte 't' then some 0x09
  else none

def escape : Reader (List UInt8) := do
  match ← next with
  | none => failHere .endOfString
  | some b =>
    if b = byte 'u' then do
      let c ← unicodeEscape
      pure (Text.Utf8.encodeChar c)
    else
      match shortEscape? b with
      | some x => pure [x]
      | none => failHere .invalidEscape

/-- The bytes of a string behind its opening quote, last one first. -/
def stringBytes : Nat → List UInt8 → Reader (List UInt8)
  | 0, _ => failHere .endOfString
  | fuel + 1, acc => fun rest =>
    match rest with
    | [] => .error ⟨.endOfString, [], []⟩
    | b :: after =>
      if b = byte '"' then .ok (acc, b :: after)
      else if b = byte '\\' then
        match escape after with
        | .ok (bytes, after) => stringBytes fuel (bytes.reverse ++ acc) after
        | .error f => .error f
      else if b < 0x20 then .error ⟨.controlCharacter, after, []⟩
      else stringBytes fuel (b :: acc) after

/-- A string behind its opening quote. Ill-formed UTF-8 is noticed in front of the closing one. -/
def stringTail : Reader String := do
  let acc ← fun rest => stringBytes (rest.length + 1) [] rest
  match Text.Utf8.decode? acc.reverse with
  | none => failHere .invalidCodePoint
  | some s => do
    advance
    pure s

/-- Reads what stands in the place of what was asked for, as far as its kind needs it. A list or an
object is only seen. -/
def unexpected {α : Type} (expected : String) : Reader α := do
  let mismatch (found : Found) : Reader α := failHere (.invalidType found expected)
  match ← peek with
  | some 0x6E => do
    advance
    word [byte 'u', byte 'l', byte 'l']
    mismatch .null
  | some 0x74 => do
    advance
    word [byte 'r', byte 'u', byte 'e']
    mismatch (.bool true)
  | some 0x66 => do
    advance
    word [byte 'a', byte 'l', byte 's', byte 'e']
    mismatch (.bool false)
  | some 0x22 => do
    advance
    let s ← stringTail
    mismatch (.string s)
  | some 0x5B => mismatch .sequence
  | some 0x7B => mismatch .map
  | some b =>
    if startsNumber b then do
      let n ← number b
      mismatch n.found
    else failNext .expectedValue
  | none => failNext .expectedValue

end LiveLesson.Json
