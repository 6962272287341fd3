import LiveLesson.Json.Token

/-!
Whole values read into `Json`. The nesting that is accepted is a parameter; of two members with one
name the last one stays, in the place of the first.
-/

namespace LiveLesson.Json

open Reader

def insertMember (name : String) (j : Json) : List (String × Json) → List (String × Json)
  | [] => [(name, j)]
  | (k, old) :: rest => if k = name then (k, j) :: rest else (k, old) :: insertMember name j rest

inductive Follow where
  | another
  | close

/-- Looks for the next element; the first one needs no comma. -/
def nextElement (first : Bool) : Reader Follow := do
  match ← nextToken with
  | none => failNext .endOfList
  | some b =>
    if b = byte ']' then pure .close
    else if first then pure .another
    else if b = byte ',' then do
      advance
      match ← nextToken with
      | none => failNext .endOfValue
      | some c => if c = byte ']' then failNext .trailingComma else pure .another
    else failNext .expectedCommaOrBracket

/-- Looks for the next member; the first one needs no comma. The name's quote comes next. -/
def nextMember (first : Bool) : Reader Follow := do
  match ← nextToken with
  | none => failNext .endOfObject
  | some b =>
    if b = byte '\x7d' then pure .close
    else if first then
      if b = byte '"' then pure .another else failNext .keyMustBeString
    else if b = byte ',' then do
      advance
      match ← nextToken with
      | none => failNext .endOfValue
      | some c =>
        if c = byte '"' then pure .another
        else if c = byte '\x7d' then failNext .trailingComma
        else failNext .keyMustBeString
    else failNext .expectedCommaOrBrace

def memberName : Reader String := do
  advance
  stringTail

def colon : Reader Unit := do
  match ← nextToken with
  | none => failNext .endOfObject
  | some b => if b = byte ':' then advance else failNext .expectedColon

/-- The elements of a list behind its bracket, read one by one; the list is returned reversed. -/
def elements (item : Reader Json) : Nat → Bool → List Json → Reader (List Json)
  | 0, _, _ => failHere .expectedValue
  | fuel + 1, first, acc => do
    match ← nextElement first with
    | .close => do
      advance
      pure acc
    | .another => do
      let j ← item
      elements item fuel false (j :: acc)

def members (item : Reader Json) : Nat → Bool → List (String × Json) → Reader (List (String × Json))
  | 0, _, _ => failHere .expectedValue
  | fuel + 1, first, acc => do
    match ← nextMember first with
    | .close => do
      advance
      pure acc
    | .another => do
      let name ← memberName
      colon
      let j ← item
      members item fuel false (insertMember name j acc)

/-- A value whose elements are read by `inner`; without one no list or object is accepted. -/
def valueWith (inner : Option (Reader Json)) : Reader Json := do
  match ← nextToken with
  | none => failNext .endOfValue
  | some b =>
    if b = byte 'n' then do advance; word [byte 'u', byte 'l', byte 'l']; pure .null
    else if b = byte 't' then do advance; word [byte 'r', byte 'u', byte 'e']; pure (.bool true)
    else if b = byte 'f' then do
      advance
      word [byte 'a', byte 'l', byte 's', byte 'e']
      pure (.bool false)
    else if startsNumber b then do
      match ← number b with
      | .integer n => pure (.integer n)
      | .float x => pure (.float x)
    else if b = byte '"' then do advance; .string <$> stringTail
    else if b = byte '[' then
      match inner with
      | none => failNext .nestedTooDeep
      | some item => do
        advance
        let items ← fun rest => elements item (rest.length + 1) true [] rest
        pure (.array items.reverse)
    else if b = byte '\x7b' then
      match inner with
      | none => failNext .nestedTooDeep
      | some item => do
        advance
        .object <$> fun rest => members item (rest.length + 1) true [] rest
    else failNext .expectedValue

/-- A value with so many levels of lists and objects at most. -/
def value : Nat → Reader Json
  | 0 => valueWith none
  | depth + 1 => valueWith (some (value depth))

def atEnd : Reader Unit := do
  match ← nextToken with
  | none => pure ()
  | some _ => failNext .trailingCharacters

def readAll {α : Type} (r : Reader α) (bytes : List UInt8) : Except Failure α :=
  match r bytes with
  | .error f => .error f
  | .ok (a, rest) =>
    match atEnd rest with
    | .error f => .error f
    | .ok _ => .ok a

def parse (depth : Nat) (bytes : List UInt8) : Except Failure Json := readAll (value depth) bytes

end LiveLesson.Json
