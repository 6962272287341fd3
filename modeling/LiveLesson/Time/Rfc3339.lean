import LiveLesson.Text.Blank
import LiveLesson.Text.Integer
import LiveLesson.Time.Timestamp

/-!
Date and time text. Writing gives RFC 3339 in UTC with the shortest of no, three, six and nine
fraction digits that is exact. Reading is more liberal: parts need not be padded, blanks may stand
around them, years beyond four digits carry a sign, the offset may lack its colon, and `UTC` in any
case is an offset.
-/

namespace LiveLesson.Timestamp

inductive TextError where
  | tooShort
  | invalid
  | outOfRange
  | impossible
  | trailing
  deriving DecidableEq, Repr

def TextError.message : TextError → String
  | .tooShort => "premature end of input"
  | .invalid => "input contains invalid characters"
  | .outOfRange => "input is out of range"
  | .impossible => "no possible date and time matching input"
  | .trailing => "trailing input"

/-- A number of `least` to `most` digits; `none` for `most` means any number of them. -/
def digitRun (most : Option Nat) : Nat → Nat → List Char → Nat × Nat × List Char
  | count, acc, c :: cs =>
    if most = some count then (count, acc, c :: cs)
    else
      match Text.digit? c with
      | some d => digitRun most (count + 1) (acc * 10 + d) cs
      | none => (count, acc, c :: cs)
  | count, acc, [] => (count, acc, [])

def number (most : Option Nat) (cs : List Char) : Except TextError (Nat × List Char) :=
  if cs.isEmpty then .error .tooShort
  else
    let (count, value, rest) := digitRun most 0 0 cs
    if count = 0 then .error .invalid
    else if Nat.pow 2 63 ≤ value then .error .outOfRange
    else .ok (value, rest)

def skipBlanks (cs : List Char) : List Char := cs.dropWhile Text.isBlank

def literal (c : Char) (cs : List Char) : Except TextError (List Char) :=
  match cs with
  | [] => .error .tooShort
  | d :: rest => if d = c then .ok rest else .error .invalid

/-- The year: four digits at most, or a sign and any number of digits. -/
def year (cs : List Char) : Except TextError (Int × List Char) := do
  let (value, rest) ← match skipBlanks cs with
    | '-' :: rest => do
      let (n, rest) ← number none rest
      pure (-(n : Int), rest)
    | '+' :: rest => do
      let (n, rest) ← number none rest
      pure ((n : Int), rest)
    | rest => do
      let (n, rest) ← number (some 4) rest
      pure ((n : Int), rest)
  if (Text.Range.signed 32).Contains value then .ok (value, rest) else .error .outOfRange

def part (least greatest : Nat) (cs : List Char) : Except TextError (Nat × List Char) := do
  let (n, rest) ← number (some 2) (skipBlanks cs)
  if least ≤ n && n ≤ greatest then .ok (n, rest) else .error .outOfRange

def separator (c : Char) (cs : List Char) : Except TextError (List Char) := do
  let rest ← literal c (skipBlanks cs)
  pure (skipBlanks rest)

/-- A fraction of a second in nanoseconds; digits past the ninth are dropped. -/
def fraction (cs : List Char) : Except TextError (Nat × List Char) :=
  match cs with
  | '.' :: rest => do
    let (n, after) ← number (some 9) rest
    let count := rest.length - after.length
    pure (n * Nat.pow 10 (9 - count), after.dropWhile Char.isDigit)
  | _ => .ok (0, cs)

def twoDigits (cs : List Char) : Except TextError (Option (Nat × Nat) × List Char) :=
  match cs with
  | a :: b :: rest =>
    match Text.digit? a, Text.digit? b with
    | some x, some y => .ok (some (x, y), rest)
    | _, _ => .ok (none, rest)
  | _ => .error .tooShort

/-- An offset's sign: `true` for the hyphen and the minus sign. -/
def offsetSign (cs : List Char) : Except TextError (Bool × List Char) :=
  match cs with
  | [] => .error .tooShort
  | c :: rest =>
    if c = '+' then .ok (false, rest)
    else if c = '-' || c = '\u2212' then .ok (true, rest)
    else .error .invalid

def offset (cs : List Char) : Except TextError (Int × List Char) :=
  match cs with
  | 'Z' :: rest => .ok (0, rest)
  | 'z' :: rest => .ok (0, rest)
  | _ => do
    let (negative, rest) ← offsetSign cs
    let (hours, rest) ← twoDigits rest
    let some (h1, h2) := hours | throw .invalid
    let (minutes, rest) ← twoDigits (rest.dropWhile fun c => c = ':' || Text.isBlank c)
    let some (m1, m2) := minutes | throw .invalid
    if 6 ≤ m1 then throw .outOfRange
    let seconds : Int := (((h1 * 10 + h2) * 60 + m1 * 10 + m2) * 60 : Nat)
    pure (if negative then -seconds else seconds, rest)

def zone (cs : List Char) : Except TextError (Int × List Char) :=
  if (cs.take 3).map Char.toUpper = ['U', 'T', 'C'] then .ok (0, cs.drop 3) else offset cs

def betweenDateAndTime (cs : List Char) : Except TextError (List Char) :=
  match cs with
  | [] => .error .tooShort
  | c :: rest => if c = 't' || c = 'T' || c = ' ' then .ok rest else .error .invalid

/-- The moment that a date, a time of day and an offset name. A sixtieth second is a leap second. -/
def ofParts (date : Date) (hour minute second nanos : Nat) (shift : Int) :
    Except TextError Timestamp :=
  if !(-86400 < shift && shift < 86400) then .error .outOfRange
  else if !date.isValid then .error .outOfRange
  else
    let (second, nanos) := if second = 60 then (59, nanos + 1000000000) else (second, nanos)
    let seconds := date.toDays * 86400 + ((hour * 60 + minute) * 60 + second : Nat) - shift
    if (Date.ofDays (seconds / 86400)).isValid then .ok ⟨seconds, nanos⟩ else .error .impossible

def read (s : String) : Except TextError Timestamp := do
  let (y, cs) ← year s.toList
  let cs ← separator '-' cs
  let (month, cs) ← part 1 12 cs
  let cs ← separator '-' cs
  let (day, cs) ← part 1 31 cs
  let cs ← betweenDateAndTime cs
  let (hour, cs) ← part 0 23 cs
  let cs ← separator ':' cs
  let (minute, cs) ← part 0 59 cs
  let cs ← separator ':' cs
  let (second, cs) ← part 0 60 cs
  let (nanos, cs) ← fraction cs
  let (shift, cs) ← zone (skipBlanks cs)
  if !(skipBlanks cs).isEmpty then throw .trailing
  ofParts ⟨y, month, day⟩ hour minute second nanos shift

def padded (width n : Nat) : List Char :=
  let ds := Nat.toDigits 10 n
  List.replicate (width - ds.length) '0' ++ ds

/-- Years from 0 to 9999 have four digits; others have a sign as well. -/
def yearText (year : Int) : List Char :=
  if 0 ≤ year && year ≤ 9999 then padded 4 year.toNat
  else (if year < 0 then '-' else '+') :: padded 4 year.natAbs

def fractionText (nanos : Nat) : List Char :=
  if nanos = 0 then []
  else if nanos % 1000000 = 0 then '.' :: padded 3 (nanos / 1000000)
  else if nanos % 1000 = 0 then '.' :: padded 6 (nanos / 1000)
  else '.' :: padded 9 nanos

def toChars (t : Timestamp) : List Char :=
  let date := Date.ofDays (t.seconds / 86400)
  let daytime := (t.seconds % 86400).toNat
  let second := daytime % 60 + t.nanos / 1000000000
  yearText date.year ++ '-' :: padded 2 date.month ++ '-' :: padded 2 date.day ++
    'T' :: padded 2 (daytime / 3600) ++ ':' :: padded 2 (daytime / 60 % 60) ++
    ':' :: padded 2 second ++ fractionText (t.nanos % 1000000000) ++ ['Z']

def text (t : Timestamp) : String := String.ofList t.toChars

end LiveLesson.Timestamp
