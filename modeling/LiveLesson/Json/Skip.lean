import LiveLesson.Json.Token

/-!
Passing over a value whose content is not wanted. Brackets are matched on a stack, so nesting has no
limit; numbers and strings are checked for their form only, which lets through what reading them
would refuse: values out of range, lone surrogates, ill-formed UTF-8.
-/

namespace LiveLesson.Json

open Reader

inductive Bracket where
  | list
  | object
  deriving DecidableEq, Repr

def skipStringTail : Nat → Reader Unit
  | 0 => failHere .endOfString
  | fuel + 1 => fun rest =>
    match rest with
    | [] => .error ⟨.endOfString, [], []⟩
    | b :: after =>
      if b = byte '"' then .ok ((), after)
      else if b = byte '\\' then
        match after with
        | [] => .error ⟨.endOfString, [], []⟩
        | c :: after =>
          if c = byte 'u' then
            match hexEscape after with
            | .ok (_, after) => skipStringTail fuel after
            | .error f => .error f
          else if (shortEscape? c).isSome then skipStringTail fuel after
          else .error ⟨.invalidEscape, after, []⟩
      else if b < 0x20 then .error ⟨.controlCharacter, b :: after, []⟩
      else skipStringTail fuel after

def skipString : Reader Unit := fun rest => skipStringTail (rest.length + 1) rest

def skipExponent : Reader Unit := do
  advance
  match ← peek with
  | some 0x2B => advance
  | some 0x2D => advance
  | _ => pure ()
  match ← next with
  | some b => if isDigit b then skipDigits else failHere .invalidNumber
  | none => failHere .invalidNumber

def skipExponentIfAny : Reader Unit := do
  match ← peek with
  | some 0x65 => skipExponent
  | some 0x45 => skipExponent
  | _ => pure ()

def skipNumberTail : Reader Unit := do
  match ← peek with
  | some 0x2E => do
    advance
    match ← peek with
    | some b => if isDigit b then do skipDigits; skipExponentIfAny else failNext .invalidNumber
    | none => failNext .invalidNumber
  | _ => skipExponentIfAny

def skipNumber : Reader Unit := do
  match ← next with
  | none => failHere .invalidNumber
  | some b =>
    if b = 0x30 then do
      match ← peek with
      | some c => if isDigit c then failNext .invalidNumber else skipNumberTail
      | none => skipNumberTail
    else if isDigit b then do
      skipDigits
      skipNumberTail
    else failHere .invalidNumber

def skipName : Reader Unit := do
  match ← nextToken with
  | none => failNext .endOfObject
  | some b =>
    if b = byte '"' then do
      advance
      skipString
      match ← nextToken with
      | none => failNext .endOfObject
      | some c => if c = byte ':' then advance else failNext .expectedColon
    else failNext .keyMustBeString

inductive SkipPhase where
  | value
  | opened
  | after
  deriving DecidableEq, Repr

/-- A word, a number or a string; an opening bracket is returned instead. -/
def skipScalar : Reader (Option Bracket) := do
  match ← nextToken with
  | none => failNext .endOfValue
  | some b =>
    if b = byte 'n' then do advance; word [byte 'u', byte 'l', byte 'l']; pure none
    else if b = byte 't' then do advance; word [byte 'r', byte 'u', byte 'e']; pure none
    else if b = byte 'f' then do
      advance
      word [byte 'a', byte 'l', byte 's', byte 'e']
      pure none
    else if b = 0x2D then do advance; skipNumber; pure none
    else if isDigit b then do skipNumber; pure none
    else if b = byte '"' then do advance; skipString; pure none
    else if b = byte '[' then do advance; pure (some .list)
    else if b = byte '\x7b' then do advance; pure (some .object)
    else failNext .expectedValue

def closes (b : UInt8) : Bracket → Bool
  | .list => b = byte ']'
  | .object => b = byte '\x7d'

def Bracket.endProblem : Bracket → Problem
  | .list => .endOfList
  | .object => .endOfObject

def Bracket.separatorProblem : Bracket → Problem
  | .list => .expectedCommaOrBracket
  | .object => .expectedCommaOrBrace

def beginItem : Bracket → Reader Unit
  | .list => pure ()
  | .object => skipName

/-- One token after the other until the stack of open brackets is empty again. -/
def skipFrom : Nat → SkipPhase → List Bracket → Reader Unit
  | 0, _, _ => failHere .expectedValue
  | fuel + 1, .value, stack => fun rest =>
    match skipScalar rest with
    | .error f => .error f
    | .ok (some b, rest) => skipFrom fuel .opened (b :: stack) rest
    | .ok (none, rest) => skipFrom fuel .after stack rest
  | _ + 1, _, [] => pure ()
  | fuel + 1, .opened, top :: stack => fun rest =>
    match nextToken rest with
    | .error f => .error f
    | .ok (none, rest) => failNext top.endProblem rest
    | .ok (some b, rest) =>
      if closes b top then skipFrom fuel .after stack (rest.drop 1)
      else
        match beginItem top rest with
        | .error f => .error f
        | .ok (_, rest) => skipFrom fuel .value (top :: stack) rest
  | fuel + 1, .after, top :: stack => fun rest =>
    match nextToken rest with
    | .error f => .error f
    | .ok (none, rest) => failNext top.endProblem rest
    | .ok (some b, rest) =>
      if closes b top then skipFrom fuel .after stack (rest.drop 1)
      else if b = byte ',' then
        match beginItem top (rest.drop 1) with
        | .error f => .error f
        | .ok (_, rest) => skipFrom fuel .value (top :: stack) rest
      else failNext top.separatorProblem rest

/-- A whole value. A token takes at most two turns. -/
def skipValue : Reader Unit := fun rest => skipFrom (2 * rest.length + 3) .value [] rest

end LiveLesson.Json
