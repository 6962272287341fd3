import LiveLesson.Text.Blank

/-!
Decimal integers in text: an optional sign and one or more ASCII digits, whose value has to lie in a
given range. A refusal says which rule was broken; a wrong character is met before a value that has
left the range only if it stands first, so a long run of digits is refused as soon as it is too
large.
-/

namespace LiveLesson.Text

inductive IntegerError where
  | empty
  | invalidDigit
  | tooLarge
  | tooSmall
  deriving DecidableEq, Repr

def IntegerError.message : IntegerError → String
  | .empty => "cannot parse integer from empty string"
  | .invalidDigit => "invalid digit found in string"
  | .tooLarge => "number too large to fit in target type"
  | .tooSmall => "number too small to fit in target type"

structure Range where
  least : Int
  greatest : Int

namespace Range

def signed (bits : Nat) : Range := ⟨-(Nat.pow 2 (bits - 1) : Int), (Nat.pow 2 (bits - 1) : Int) - 1⟩

def unsigned (bits : Nat) : Range := ⟨0, (Nat.pow 2 bits : Int) - 1⟩

def Contains (r : Range) (n : Int) : Prop := r.least ≤ n ∧ n ≤ r.greatest

instance (r : Range) (n : Int) : Decidable (r.Contains n) := inferInstanceAs (Decidable (_ ∧ _))

end Range

def digit? (c : Char) : Option Nat := if c.isDigit then some (c.toNat - '0'.toNat) else none

/-- Whether there is a minus sign, and what stands behind the sign. -/
def cutSign : List Char → Bool × List Char
  | '-' :: cs => (true, cs)
  | '+' :: cs => (false, cs)
  | cs => (false, cs)

/-- Reads the digits of a value that grows away from zero: upwards for `false`, downwards for
`true`. -/
def readDigits (r : Range) (negative : Bool) : Int → List Char → Except IntegerError Int
  | acc, [] => .ok acc
  | acc, c :: cs =>
    match digit? c with
    | none => .error .invalidDigit
    | some d =>
      let next := if negative then acc * 10 - d else acc * 10 + d
      if next < r.least then .error .tooSmall
      else if r.greatest < next then .error .tooLarge
      else readDigits r negative next cs

/-- An unsigned range has no place for a minus sign, not even before a zero. -/
def readIntegerChars (r : Range) : List Char → Except IntegerError Int
  | [] => .error .empty
  | ['+'] => .error .invalidDigit
  | ['-'] => .error .invalidDigit
  | '+' :: cs => readDigits r false 0 cs
  | '-' :: cs => if r.least < 0 then readDigits r true 0 cs else .error .invalidDigit
  | cs => readDigits r false 0 cs

def readInteger (r : Range) (s : String) : Except IntegerError Int := readIntegerChars r s.toList

end LiveLesson.Text
