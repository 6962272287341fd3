import LiveLesson.Config.Tree
import LiveLesson.Text.Integer
import LiveLesson.Text.Split

/-!
Settings in environment variables: `CLASSLIVE__SERVER__PORT` names `server.port`, in any case of
letters. A value that reads as a truth value or as a number is one; only the list of origins is
split at commas.
-/

namespace LiveLesson.Config

/-- Names and values, the first of a name being the one that counts. -/
abbrev Variables := List (String × String)

namespace Environment

def leading : List Char := "classlive__".toList

def separateNames : List Char → List Char
  | '_' :: '_' :: rest => '.' :: separateNames rest
  | c :: rest => c :: separateNames rest
  | [] => []

def settingName? (name : String) : Option String :=
  let cs := Text.lowerChars name.toList
  if cs.take leading.length = leading then
    some (String.ofList (separateNames (cs.drop leading.length)))
  else none

def special? (cs : List Char) : Option Binary64 :=
  let lower := String.ofList (cs.map Char.toLower)
  if lower = "inf" || lower = "infinity" then some (.infinite false)
  else if lower = "nan" then some .notANumber
  else none

def natOf (digits : List Char) : Nat :=
  digits.foldl (fun acc c => acc * 10 + (c.toNat - '0'.toNat)) 0

/-- The power of ten behind an `e`, cut off far outside the range of numbers. -/
def exponent? (cs : List Char) : Option Int :=
  let (negative, digits) := Text.cutSign cs
  if digits.isEmpty || !digits.all Char.isDigit then none
  else
    let n := natOf ((digits.dropWhile (· = '0')).take 9)
    some (if negative then -(n : Int) else n)

def decimal? (negative : Bool) (cs : List Char) : Option Binary64 := do
  let isExponent (c : Char) : Bool := c = 'e' || c = 'E'
  let mantissa := cs.takeWhile fun c => !isExponent c
  let power ← match cs.dropWhile fun c => !isExponent c with
    | [] => pure 0
    | _ :: rest => exponent? rest
  let (whole, fraction) := Text.cutFirst '.' mantissa
  let digits := whole ++ fraction.getD []
  if digits.isEmpty || !digits.all Char.isDigit then none
  else return Binary64.ofDecimal negative (natOf digits) (power - (fraction.getD []).length)

def float? (cs : List Char) : Option Binary64 :=
  let (negative, rest) := Text.cutSign cs
  match special? rest with
  | some x => some (if negative then x.negate else x)
  | none => decimal? negative rest

def listName : String := "server.cors_allow_origins"

def value (name text : String) : Tree :=
  let cs := text.toList
  let lower := Text.lowerChars cs
  if lower = "true".toList then .bool true
  else if lower = "false".toList then .bool false
  else
    match Text.readIntegerChars (.signed 64) cs, float? cs with
    | .ok n, _ => .integer n
    | .error _, some x => .float x
    | .error _, none =>
      if name = listName then
        .list ((Text.split ',' cs).map fun piece => .text (String.ofList piece))
      else .text text

/-- The settings among the variables, in the order in which they are put over each other. Of two
that differ in case the later one counts; beyond that a process gives its variables no order of
their own. -/
def settings (vars : Variables) : List (String × Tree) :=
  vars.filterMap fun (name, text) =>
    (settingName? name).map fun setting => (setting, value setting text)

end Environment

end LiveLesson.Config
