import LiveLesson.Config.Tree
import LiveLesson.Text.Split
import LiveLesson.Time.Calendar

/-!
Numbers, truth values and moments of TOML, each of them one word. Underscores stand between digits
only, and only a single zero begins with a zero. A moment is kept as its text in standard form.
-/

namespace LiveLesson.Toml

open Config

/-- The digits of a run in which an underscore stands between two digits. -/
def digitRun? (isDigit : Char → Bool) : List Char → Option (List Char)
  | [] => none
  | [c] => if isDigit c then some [c] else none
  | c :: '_' :: rest => if isDigit c then (digitRun? isDigit rest).map (c :: ·) else none
  | c :: rest => if isDigit c then (digitRun? isDigit rest).map (c :: ·) else none

def natOf (base : Nat) (digits : List Char) : Nat :=
  digits.foldl (fun acc c =>
    let d := if c.isDigit then c.toNat - '0'.toNat else c.toLower.toNat - 'a'.toNat + 10
    acc * base + d) 0

def wholeDigits? (cs : List Char) : Option (List Char) :=
  match cs with
  | '0' :: _ :: _ => none
  | _ => digitRun? Char.isDigit cs

def isHexDigit (c : Char) : Bool :=
  c.isDigit || ('a' ≤ c && c ≤ 'f') || ('A' ≤ c && c ≤ 'F')

def magnitude? : List Char → Option Nat
  | '0' :: 'x' :: cs => (digitRun? isHexDigit cs).map (natOf 16)
  | '0' :: 'o' :: cs => (digitRun? (fun c => '0' ≤ c && c ≤ '7') cs).map (natOf 8)
  | '0' :: 'b' :: cs => (digitRun? (fun c => c = '0' || c = '1') cs).map (natOf 2)
  | _ => none

/-- An integer of 64 bits; only a decimal one has a sign. -/
def integer? (word : List Char) : Option Int := do
  let n ← match magnitude? word with
    | some n => pure (n : Int)
    | none => do
      let (negative, cs) := Text.cutSign word
      let n := natOf 10 (← wholeDigits? cs)
      pure (if negative then -(n : Int) else n)
  if (Text.Range.signed 64).Contains n then some n else none

def exponent? (cs : List Char) : Option Int := do
  let (negative, cs) := Text.cutSign cs
  let n := natOf 10 ((← digitRun? Char.isDigit cs).dropWhile (· = '0') |>.take 9)
  return if negative then -(n : Int) else n

def special? : List Char → Option Binary64
  | ['i', 'n', 'f'] => some (.infinite false)
  | ['n', 'a', 'n'] => some .notANumber
  | _ => none

/-- A number with a fraction, an exponent or both. One too large is refused unless it is
negative. -/
def decimal? (word : List Char) : Option Binary64 := do
  let (negative, cs) := Text.cutSign word
  let isExponent (c : Char) : Bool := c = 'e' || c = 'E'
  let mantissa := cs.takeWhile fun c => !isExponent c
  let power ← match cs.dropWhile fun c => !isExponent c with
    | [] => pure 0
    | _ :: cs => exponent? cs
  let (whole, fraction) := Text.cutFirst '.' mantissa
  if fraction.isNone && mantissa.length = cs.length then none
  else
    let whole ← wholeDigits? whole
    let fraction ← match fraction with
      | some cs => digitRun? Char.isDigit cs
      | none => pure []
    let x := Binary64.ofDecimal negative (natOf 10 (whole ++ fraction)) (power - fraction.length)
    if x = .infinite false then none else some x

def float? (word : List Char) : Option Binary64 :=
  let (negative, cs) := Text.cutSign word
  match special? cs with
  | some x => some (if negative then x.negate else x)
  | none => decimal? word

def field? (size least greatest : Nat) (cs : List Char) : Option Nat :=
  if cs.length = size && cs.all Char.isDigit then
    let n := natOf 10 cs
    if least ≤ n && n ≤ greatest then some n else none
  else none

def padded (size n : Nat) : String :=
  let ds := Nat.toDigits 10 n
  String.ofList (List.replicate (size - ds.length) '0' ++ ds)

def date? (cs : List Char) : Option String :=
  match Text.split '-' cs with
  | [y, m, d] => do
    let year ← field? 4 0 9999 y
    let month ← field? 2 1 12 m
    let day ← field? 2 1 31 d
    if Date.daysInMonth year month < day then none
    else return padded 4 year ++ "-" ++ padded 2 month ++ "-" ++ padded 2 day
  | _ => none

def fractionText (digits : List Char) : String :=
  let kept := ((digits.take 9).reverse.dropWhile (· = '0')).reverse
  if kept.isEmpty then "" else "." ++ String.ofList kept

/-- A time of day. A leap second is a second. -/
def time? (cs : List Char) : Option String :=
  let (clock, fraction) := Text.cutFirst '.' cs
  match Text.split ':' clock, fraction with
  | [h, m, s], fraction => do
    let hour ← field? 2 0 23 h
    let minute ← field? 2 0 59 m
    let second ← field? 2 0 60 s
    let fraction ← match fraction with
      | none => pure ""
      | some ds => if ds.isEmpty || !ds.all Char.isDigit then none else pure (fractionText ds)
    return padded 2 hour ++ ":" ++ padded 2 minute ++ ":" ++ padded 2 second ++ fraction
  | _, _ => none

/-- The distance from universal time; none at all has no sign to keep. -/
def offset? : List Char → Option String
  | [] => some ""
  | ['Z'] => some "Z"
  | ['z'] => some "Z"
  | sign :: cs =>
    match Text.split ':' cs with
    | [h, m] => do
      let hour ← field? 2 0 23 h
      let minute ← field? 2 0 59 m
      let mark := if sign = '-' && (hour, minute) != (0, 0) then "-" else "+"
      return mark ++ padded 2 hour ++ ":" ++ padded 2 minute
    | _ => none

def isOffsetStart (c : Char) : Bool := c = 'Z' || c = 'z' || c = '+' || c = '-'

def offsetTime? (cs : List Char) : Option String := do
  let clock ← time? (cs.takeWhile fun c => !isOffsetStart c)
  let offset ← offset? (cs.dropWhile fun c => !isOffsetStart c)
  return clock ++ offset

def moment? (word : List Char) : Option String :=
  let isDelimiter (c : Char) : Bool := c = 'T' || c = 't' || c = ' '
  match word.takeWhile fun c => !isDelimiter c, word.dropWhile fun c => !isDelimiter c with
  | day, [] => (date? day).or (time? day)
  | day, _ :: clock => do
    let day ← date? day
    let clock ← offsetTime? clock
    return day ++ "T" ++ clock

def scalar? (word : List Char) : Option Tree :=
  if word = "true".toList then some (.bool true)
  else if word = "false".toList then some (.bool false)
  else ((integer? word).map .integer).or (((float? word).map .float).or ((moment? word).map .text))

end LiveLesson.Toml
