import LiveLesson.Json.Document
import LiveLesson.Json.Skip
import LiveLesson.Text.Integer

/-!
How a type travels as JSON: read from text as the bytes come, taken from a finished value, and
written. The two ways in accept the same values; reading a text also has to notice the first fault
in the order of its bytes.
-/

namespace LiveLesson

structure Wire (α : Type) where
  read : Json.Reader α
  decode : Json → Except Json.Problem α
  encode : α → Json

namespace Wire

open Json Json.Reader

variable {α β : Type}

/-- The same form for another type; `make` may refuse a value by a message. -/
def convert (w : Wire α) (make : α → Except String β) (view : β → α) : Wire β where
  read := do
    let a ← w.read
    match make a with
    | .ok b => pure b
    | .error m => failHere (.refused m)
  decode j := do
    let a ← w.decode j
    (make a).mapError .refused
  encode b := w.encode (view b)

def rename (w : Wire α) (make : α → β) (view : β → α) : Wire β where
  read := make <$> w.read
  decode j := make <$> w.decode j
  encode b := w.encode (view b)

def withinRange (r : Text.Range) (name : String) : Found → Except Problem Int
  | .integer n => if r.Contains n then .ok n else .error (.invalidValue (.integer n) name)
  | found => .error (.invalidType found name)

def integer (r : Text.Range) (name : String) : Wire Int where
  read := do
    match ← nextToken with
    | none => failNext .endOfValue
    | some b =>
      if startsNumber b then do
        let n ← number b
        match withinRange r name n.found with
        | .ok n => pure n
        | .error p => failHere p
      else unexpected name
  decode j := withinRange r name (Found.ofJson j)
  encode n := .integer n

def int64 : Wire Int := integer (Text.Range.signed 64) "i64"

def natural (bits : Nat) : Wire Nat :=
  (integer (Text.Range.unsigned bits) ("u" ++ toString bits)).rename Int.toNat Int.ofNat

def stringAs (expected : String) : Wire String where
  read := do
    match ← nextToken with
    | none => failNext .endOfValue
    | some b =>
      if b = byte '"' then do
        advance
        stringTail
      else unexpected expected
  decode
    | .string s => .ok s
    | j => .error (.invalidType (Found.ofJson j) expected)
  encode s := .string s

def string : Wire String := stringAs "a string"

def readElements (item : Reader α) : Nat → Nat → List α → Reader (List α)
  | 0, _, _ => failHere .expectedValue
  | fuel + 1, index, acc => do
    match ← nextElement (index == 0) with
    | .close => do
      advance
      pure acc.reverse
    | .another => do
      let a ← within (.element index) item
      readElements item fuel (index + 1) (a :: acc)

def decodeAll (item : Json → Except Problem α) : List Json → Except Problem (List α)
  | [] => .ok []
  | j :: rest => do
    let a ← item j
    let as ← decodeAll item rest
    pure (a :: as)

def list (w : Wire α) : Wire (List α) where
  read := do
    match ← nextToken with
    | none => failNext .endOfValue
    | some b =>
      if b = byte '[' then do
        advance
        fun rest => readElements w.read (rest.length + 1) 0 [] rest
      else unexpected "a sequence"
  decode
    | .array items => decodeAll w.decode items
    | j => .error (.invalidType (Found.ofJson j) "a sequence")
  encode as := .array (as.map w.encode)

def optional (w : Wire α) : Wire (Option α) where
  read := do
    match ← nextToken with
    | some 0x6E => do
      advance
      word [byte 'u', byte 'l', byte 'l']
      pure none
    | _ => some <$> w.read
  decode
    | .null => .ok none
    | j => some <$> w.decode j
  encode
    | none => .null
    | some a => w.encode a

/-- The content that may follow a name inside an object: nothing but `null`. -/
def readNothing : Reader Unit := do
  match ← nextToken with
  | none => failNext .endOfValue
  | some b =>
    if b = byte 'n' then do
      advance
      word [byte 'u', byte 'l', byte 'l']
    else unexpected "unit"

def chosen (names : List (String × α)) (s : String) : Except Problem α :=
  match names.lookup s with
  | some a => .ok a
  | none => .error (.unknownVariant s (names.map Prod.fst))

def readChosen (names : List (String × α)) (expected : String) : Reader (String × α) := do
  let s ← (stringAs expected).read
  match chosen names s with
  | .ok a => pure (s, a)
  | .error p => failHere p

/-- A name out of a list, either as a string or as an object with `null` under that name. -/
def oneOf (names : List (String × α)) (nameOf : α → String) : Wire α where
  read := do
    match ← nextToken with
    | none => failNext .endOfValue
    | some b =>
      if b = byte '"' then Prod.snd <$> readChosen names "variant identifier"
      else if b = byte '\x7b' then do
        advance
        let (s, a) ← readChosen names "variant identifier"
        colon
        within (.field s) readNothing
        match ← nextToken with
        | none => failHere .endOfObject
        | some c =>
          if c = byte '\x7d' then do
            advance
            pure a
          else failHere .expectedValue
      else failNext .expectedValue
  decode
    | .string s => chosen names s
    | .object [(s, content)] => do
      let a ← chosen names s
      match content with
      | .null => pure a
      | j => throw (.invalidType (Found.ofJson j) "unit")
    | .object _ => .error (.invalidValue .map "map with a single key")
    | j => .error (.invalidType (Found.ofJson j) "string or map")
  encode a := .string (nameOf a)

def parse (w : Wire α) (bytes : List UInt8) : Except Failure α := readAll w.read bytes

end Wire

end LiveLesson
