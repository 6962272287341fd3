import LiveLesson.Wire.Basic

/-!
Records as JSON. A record comes as an object, whose members may stand in any order and among unknown
ones, or as a list of its fields in their order. It is built up from a blank value, field by field;
each field is given at most once and says whether it may be absent.
-/

namespace LiveLesson

inductive Absence where
  | refused
  /-- An object may lack it, a list may not. -/
  | inObject
  | anywhere
  deriving DecidableEq, Repr

structure Field (α : Type) where
  name : String
  aliases : List String
  absence : Absence
  read : α → Json.Reader α
  decode : α → Json → Except Json.Problem α
  /-- `none` leaves the member out. -/
  encode : α → Option Json

namespace Field

variable {α β : Type}

def of (name : String) (w : Wire β) (get : α → β) (set : α → β → α) : Field α where
  name := name
  aliases := []
  absence := .refused
  read a := set a <$> w.read
  decode a j := set a <$> w.decode j
  encode a := some (w.encode (get a))

def withDefault (f : Field α) : Field α := { f with absence := .anywhere }

def optionalMember (f : Field α) : Field α := { f with absence := .inObject }

def withAlias (f : Field α) (name : String) : Field α := { f with aliases := name :: f.aliases }

def omittedWhen (f : Field α) (skip : α → Bool) : Field α :=
  { f with encode := fun a => if skip a then none else f.encode a }

def IsNamed (f : Field α) (key : String) : Bool := f.name == key || f.aliases.contains key

end Field

/-- The fields of a record, in order, and the value they are set in. `title` names it in
messages. -/
structure Record (α : Type) where
  title : String
  blank : α
  fields : List (Field α)

namespace Record

open Json Json.Reader

variable {α : Type}

def field? (r : Record α) (key : String) : Option (Field α) := r.fields.find? fun f => f.IsNamed key

def kindText (r : Record α) : String := "struct " ++ r.title

def sizeText (r : Record α) : String :=
  let n := r.fields.length
  r.kindText ++ " with " ++ toString n ++ (if n = 1 then " element" else " elements")

def firstMissing (r : Record α) (seen : List String) : Option (Field α) :=
  r.fields.find? fun f => f.absence == .refused && !seen.contains f.name

def complete (r : Record α) (seen : List String) (a : α) : Except Problem α :=
  match r.firstMissing seen with
  | some f => .error (.missingField f.name)
  | none => .ok a

/-- Leaves a list or an object. The second part is where the reading then stands, also on
failure. -/
def leave (b : Bracket) (rest : List UInt8) : Option Failure × List UInt8 :=
  let rest := rest.dropWhile isSpace
  let refuse (p : Problem) (rest : List UInt8) := (some (Failure.mk p (rest.drop 1) []), rest)
  match rest with
  | [] => refuse b.endProblem []
  | c :: after =>
    if closes c b then (none, after)
    else if c = byte ',' then
      let after := after.dropWhile isSpace
      match b, after with
      | .list, d :: _ => refuse (if d = byte ']' then .trailingComma else .trailingCharacters) after
      | .list, [] => refuse .trailingCharacters after
      | .object, _ => refuse .trailingComma rest
    else refuse .trailingCharacters rest

/-- A problem with the record as a whole is told where its end was looked for. -/
def conclude (b : Bracket) (result : Except Problem α) : Reader α := fun rest =>
  let (failure, rest) := leave b rest
  match result, failure with
  | .error p, _ => .error ⟨p, rest, []⟩
  | .ok a, none => .ok (a, rest)
  | .ok _, some f => .error f

/-- The members behind the brace. The inner result is a problem with the record as a whole. -/
def readMembers (r : Record α) : Nat → Bool → List String → α → Reader (Except Problem α)
  | 0, _, _, _ => failHere .expectedValue
  | fuel + 1, first, seen, a => do
    match ← nextMember first with
    | .close => pure (r.complete seen a)
    | .another => do
      let key ← memberName
      match r.field? key with
      | none => do
        within (.field key) (do colon; skipValue)
        readMembers r fuel false seen a
      | some f =>
        if seen.contains f.name then pure (.error (.duplicateField f.name))
        else do
          let a ← within (.field key) (do colon; f.read a)
          readMembers r fuel false (f.name :: seen) a

def readPositions (r : Record α) : List (Field α) → Nat → α → Reader (Except Problem α)
  | [], _, a => pure (.ok a)
  | f :: fs, index, a => do
    match ← nextElement (index == 0) with
    | .close =>
      if f.absence = .anywhere then readPositions r fs index a
      else pure (.error (.invalidLength index r.sizeText))
    | .another => do
      let a ← within (.element index) (f.read a)
      readPositions r fs (index + 1) a

def read (r : Record α) : Reader α := do
  match ← nextToken with
  | none => failNext .endOfValue
  | some b =>
    if b = byte '\x7b' then do
      advance
      let result ← fun rest => r.readMembers (rest.length + 1) true [] r.blank rest
      conclude .object result
    else if b = byte '[' then do
      advance
      let result ← r.readPositions r.fields 0 r.blank
      conclude .list result
    else unexpected r.kindText

def decodeMembers (r : Record α) : List (String × Json) → List String → α → Except Problem α
  | [], seen, a => r.complete seen a
  | (key, j) :: rest, seen, a =>
    match r.field? key with
    | none => decodeMembers r rest seen a
    | some f =>
      if seen.contains f.name then .error (.duplicateField f.name)
      else
        match f.decode a j with
        | .ok a => decodeMembers r rest (f.name :: seen) a
        | .error p => .error p

def decodePositions (r : Record α) (count : Nat) :
    List (Field α) → Nat → α → List Json → Except Problem α
  | [], _, a, [] => .ok a
  | [], _, _, _ :: _ => .error (.invalidLength count "fewer elements in array")
  | f :: fs, index, a, [] =>
    if f.absence = .anywhere then decodePositions r count fs index a []
    else .error (.invalidLength index r.sizeText)
  | f :: fs, index, a, j :: rest =>
    match f.decode a j with
    | .ok a => decodePositions r count fs (index + 1) a rest
    | .error p => .error p

/-- Members are visited in the order of their names. -/
def byName (members : List (String × Json)) : List (String × Json) :=
  members.mergeSort fun a b => a.1 ≤ b.1

def decode (r : Record α) : Json → Except Problem α
  | .object members => r.decodeMembers (byName members) [] r.blank
  | .array items => r.decodePositions items.length r.fields 0 r.blank items
  | j => .error (.invalidType (Found.ofJson j) r.kindText)

def encode (r : Record α) (a : α) : Json :=
  .object (r.fields.filterMap fun f => (f.encode a).map fun j => (f.name, j))

def wire (r : Record α) : Wire α := ⟨r.read, r.decode, r.encode⟩

end Record

end LiveLesson
