import LiveLesson.Number.Binary64

/-!
Decimal text of binary numbers: the fewest digits that still lie nearer to the number than to any
other one, and among those the nearest. Two layouts use them: positional without exponent, and a
mixed one which switches to an exponent outside a window and marks whole numbers by `.0`.
-/

namespace LiveLesson.Binary64

/-- `0.d₁d₂… · Nat.pow 10 point`. -/
structure Decimal where
  digits : List Char
  point : Int
  deriving DecidableEq, Repr

/-- The power of ten just above a positive fraction, searched downwards from `10 ^ 0`. -/
def pointBelowOne (num den : Nat) : Nat → Int → Int
  | 0, k => k
  | fuel + 1, k => if num * 10 < den then pointBelowOne (num * 10) den fuel (k - 1) else k

def decimalPoint (num den : Nat) : Int :=
  if den ≤ num then ((Nat.toDigits 10 (num / den)).length : Int) else pointBelowOne num den 400 0

/-- The numbers that round to a finite one lie between `low / den` and `high / den`; the ends belong
to them if the significand is even. The value itself is `mid / den`. -/
structure Basin where
  low : Nat
  mid : Nat
  high : Nat
  den : Nat
  closed : Bool

/-- Below a power of two the gap is half as wide. -/
def basin (significand : Nat) (exponent : Int) : Basin :=
  let (n, d) := toFraction 1 exponent
  let below := if significand = Nat.pow 2 52 && leastExponent < exponent then 1 else 2
  ⟨(4 * significand - below) * n, 4 * significand * n, (4 * significand + 2) * n, 4 * d,
    significand % 2 = 0⟩

def Basin.Holds (b : Basin) (num den : Nat) : Bool :=
  let x := num * b.den
  if b.closed then b.low * den ≤ x && x ≤ b.high * den else b.low * den < x && x < b.high * den

/-- The grid point with `count` digits that lies in the basin and nearest to its middle. -/
def gridPoint? (b : Basin) (point : Int) (count : Nat) : Option Nat :=
  let (up, down) : Nat × Nat :=
    match point - count with
    | .ofNat p => (Nat.pow 10 p, 1)
    | .negSucc p => (1, Nat.pow 10 (p + 1))
  -- one unit of the grid is `up / down`
  let below := b.mid * down / (b.den * up)
  let above := below + 1
  let okBelow := below ≠ 0 && b.Holds (below * up) down
  let okAbove := b.Holds (above * up) down
  if okBelow && okAbove then
    let gapBelow := b.mid * down - below * up * b.den
    let gapAbove := above * up * b.den - b.mid * down
    if gapBelow < gapAbove then some below
    else if gapAbove < gapBelow then some above
    else if below % 2 = 0 then some below else some above
  else if okBelow then some below
  else if okAbove then some above
  else none

/-- Tries one digit, two digits and so on; seventeen are always enough. -/
def searchDigits (b : Basin) (point : Int) : Nat → Nat → Nat
  | 0, count => b.mid * Nat.pow 10 count / b.den
  | fuel + 1, count =>
    match gridPoint? b point count with
    | some n => n
    | none => searchDigits b point fuel (count + 1)

def dropTrailingZeros (ds : List Char) : List Char := (ds.reverse.dropWhile (· == '0')).reverse

def shortest (significand : Nat) (exponent : Int) : Decimal :=
  let (n, d) := toFraction significand exponent
  let point := decimalPoint n d
  let b := basin significand exponent
  let found := searchDigits b point 17 1
  let ds := Nat.toDigits 10 found
  -- rounding up to the next power of ten adds a digit, as in 9.5 read with one digit
  let carried := match gridPoint? b point 1 with
    | some 10 => point + 1
    | _ => point
  ⟨dropTrailingZeros ds, carried⟩

def Decimal.positional (x : Decimal) (pointZero : Bool) : List Char :=
  let count := x.digits.length
  match x.point with
  | .ofNat p =>
    if p = 0 then '0' :: '.' :: x.digits
    else if count ≤ p then
      x.digits ++ List.replicate (p - count) '0' ++ (if pointZero then ['.', '0'] else [])
    else x.digits.take p ++ '.' :: x.digits.drop p
  | .negSucc p => '0' :: '.' :: List.replicate (p + 1) '0' ++ x.digits

def Decimal.scientific (x : Decimal) : List Char :=
  let e := x.point - 1
  let fraction := match x.digits.drop 1 with
    | [] => []
    | ds => '.' :: ds
  x.digits.take 1 ++ fraction ++ 'e' :: (if e < 0 then '-' else '+') :: Nat.toDigits 10 e.natAbs

/-- Positional text, without a point for whole numbers. -/
def plainText : Binary64 → String
  | .notANumber => "NaN"
  | .infinite s => if s then "-inf" else "inf"
  | .finite s m e =>
    let body := if m = 0 then ['0'] else (shortest m e).positional false
    String.ofList (if s then '-' :: body else body)

/-- Positional text from 0.00001 to below 10 ^ 16, always with a point; an exponent elsewhere. -/
def mixedText : Binary64 → String
  | .notANumber => "NaN"
  | .infinite s => if s then "-inf" else "inf"
  | .finite s m e =>
    let body :=
      if m = 0 then ['0', '.', '0']
      else
        let x := shortest m e
        if -5 < x.point && x.point ≤ 16 then x.positional true else x.scientific
    String.ofList (if s then '-' :: body else body)

end LiveLesson.Binary64
