/-!
Binary floating-point numbers with a 53-bit significand, in exact integer arithmetic. A finite
number is `significand · 2 ^ exponent` with its sign; results of an operation are the exact ones
rounded to the nearest number, a tie going to the even significand. The signed zeros, the infinities
and one not-a-number complete the type. Neither payloads nor exception flags are modelled.
-/

namespace LiveLesson

inductive Binary64 where
  | finite (negative : Bool) (significand : Nat) (exponent : Int)
  | infinite (negative : Bool)
  | notANumber
  deriving DecidableEq, Repr, Inhabited

namespace Binary64

def precision : Nat := 53

def leastExponent : Int := -1074

def greatestExponent : Int := 971

def zero (negative : Bool) : Binary64 := .finite negative 0 leastExponent

def scale (num den : Nat) (exponent : Int) : Nat × Nat :=
  match exponent with
  | .ofNat e => (num, den <<< e)
  | .negSucc e => (num <<< (e + 1), den)

/-- A quotient rounded to the nearest integer, a tie to the even one. -/
def divideNearest (num den : Nat) : Nat :=
  let q := num / den
  let twice := 2 * (num % den)
  if twice < den then q
  else if den < twice then q + 1
  else if q % 2 = 0 then q else q + 1

/-- The exponent at which a positive fraction has a significand of full length, or the least one. -/
def fitExponent (num den : Nat) : Int :=
  let guess : Int := (Nat.log2 num : Int) - (Nat.log2 den : Int) - 52
  let (n, d) := scale num den guess
  let exact := if n / d < Nat.pow 2 52 then guess - 1 else guess
  max exact leastExponent

/-- The number nearest to a fraction; one that is too large becomes infinite. -/
def ofFraction (negative : Bool) (num den : Nat) : Binary64 :=
  if num = 0 || den = 0 then zero negative
  else
    let e := fitExponent num den
    let (n, d) := scale num den e
    let m := divideNearest n d
    let (m, e) := if m = Nat.pow 2 53 then (Nat.pow 2 52, e + 1) else (m, e)
    if greatestExponent < e then .infinite negative else .finite negative m e

def ofNat (n : Nat) : Binary64 := ofFraction false n 1

def negate : Binary64 → Binary64
  | .finite s m e => .finite (!s) m e
  | .infinite s => .infinite (!s)
  | .notANumber => .notANumber

/-- The number nearest to `digits · 10 ^ power`. Powers far outside the range are cut off first. -/
def ofDecimal (negative : Bool) (digits : Nat) (power : Int) : Binary64 :=
  if digits = 0 then zero negative
  else
    let length : Int := ((Nat.toDigits 10 digits).length : Int)
    if 310 < power + length then .infinite negative
    else if power + length < -330 then zero negative
    else
      match power with
      | .ofNat p => ofFraction negative (digits * Nat.pow 10 p) 1
      | .negSucc p => ofFraction negative digits (Nat.pow 10 (p + 1))

def toFraction (significand : Nat) (exponent : Int) : Nat × Nat :=
  match exponent with
  | .ofNat e => (significand <<< e, 1)
  | .negSucc e => (significand, 1 <<< (e + 1))

def isZero : Binary64 → Bool
  | .finite _ 0 _ => true
  | _ => false

def timesNat (x : Binary64) (k : Binary64) : Binary64 :=
  match x, k with
  | .finite s m e, .finite _ m' e' =>
    let (n, d) := toFraction m e
    let (n', d') := toFraction m' e'
    ofFraction s (n * n') (d * d')
  | _, _ => x

def dividedBy (x : Binary64) (k : Binary64) : Binary64 :=
  match x, k with
  | .finite s m e, .finite _ m' e' =>
    let (n, d) := toFraction m e
    let (n', d') := toFraction m' e'
    ofFraction s (n * d') (d * n')
  | _, _ => x

/-- The nearest integer, a half going away from zero, and the nearest bound for what lies outside
the range; zero for what is not a number. -/
def toIntWithin (least greatest : Int) : Binary64 → Int
  | .notANumber => 0
  | .infinite s => if s then least else greatest
  | .finite s m e =>
    let (n, d) := toFraction m e
    let size : Int := (((2 * n + d) / (2 * d) : Nat) : Int)
    let value := if s then -size else size
    max least (min greatest value)

end Binary64

end LiveLesson
