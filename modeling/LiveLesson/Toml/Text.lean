import LiveLesson.Text.Hex

/-!
Strings and keys of TOML: between quotes with escapes, between apostrophes as they stand, and either
over several lines between three of them. A bare key is letters, digits, underscores and dashes.
-/

namespace LiveLesson.Toml

open LiveLesson.Text

/-- A reader takes what it reads from the front; `none` is a refusal. -/
abbrev Reader (α : Type) := List Char → Option (α × List Char)

def isSpace (c : Char) : Bool := c = ' ' || c = '\t'

def isLineChar (c : Char) : Bool := c = '\t' || (0x20 ≤ c.toNat && c.toNat ≠ 0x7F)

def lineEnd? : List Char → Option (List Char)
  | '\n' :: rest => some rest
  | '\r' :: '\n' :: rest => some rest
  | _ => none

def hex? (cs : List Char) : Option Nat :=
  cs.foldlM (fun acc c => do
    let d ← if c.toNat < 0x80 then Hex.value? c.toNat.toUInt8 else none
    return acc * 16 + d) 0

def codePoint (size : Nat) : Reader Char := fun cs =>
  if cs.length < size then none
  else
    match hex? (cs.take size) with
    | some n => if n.isValidChar then some (Char.ofNat n, cs.drop size) else none
    | none => none

def escape : Reader Char
  | 'b' :: rest => some ('\x08', rest)
  | 't' :: rest => some ('\t', rest)
  | 'n' :: rest => some ('\n', rest)
  | 'f' :: rest => some ('\x0c', rest)
  | 'r' :: rest => some ('\r', rest)
  | '"' :: rest => some ('"', rest)
  | '\\' :: rest => some ('\\', rest)
  | 'u' :: rest => codePoint 4 rest
  | 'U' :: rest => codePoint 8 rest
  | _ => none

def quotedBody : Nat → List Char → Reader (List Char)
  | 0, _, _ => none
  | fuel + 1, acc, cs =>
    match cs with
    | '"' :: rest => some (acc.reverse, rest)
    | '\\' :: rest =>
      match escape rest with
      | some (c, rest) => quotedBody fuel (c :: acc) rest
      | none => none
    | c :: rest => if isLineChar c then quotedBody fuel (c :: acc) rest else none
    | [] => none

def literalBody : List Char → Reader (List Char)
  | _, [] => none
  | acc, c :: rest =>
    if c = '\'' then some (acc.reverse, rest)
    else if isLineChar c then literalBody (c :: acc) rest
    else none

def countFront (mark : Char) (cs : List Char) : Nat := (cs.takeWhile (· = mark)).length

/-- What of a run of marks belongs to the string that the last three of at most five end. -/
def closing? (mark : Char) (cs : List Char) : Option (Nat × List Char) :=
  let count := countFront mark cs
  if count < 3 then none else some (min count 5 - 3, cs.drop (min count 5))

def skipBlank : Nat → List Char → List Char
  | 0, cs => cs
  | fuel + 1, cs =>
    match lineEnd? (cs.dropWhile isSpace) with
    | some rest => skipBlank fuel rest
    | none => cs.dropWhile isSpace

/-- A string over several lines. Only between quotes does a backslash mean anything; one at the end
of a line takes the blanks and line ends behind it away. -/
def linesBody (mark : Char) : Nat → List Char → Reader (List Char)
  | 0, _, _ => none
  | fuel + 1, acc, cs =>
    match closing? mark cs with
    | some (count, rest) => some (acc.reverse ++ List.replicate count mark, rest)
    | none =>
      match lineEnd? cs, cs with
      | some rest, _ => linesBody mark fuel ('\n' :: acc) rest
      | none, [] => none
      | none, c :: rest =>
        if c = '\\' && mark = '"' then
          match lineEnd? (rest.dropWhile isSpace), escape rest with
          | some rest, _ => linesBody mark fuel acc (skipBlank rest.length rest)
          | none, some (c, rest) => linesBody mark fuel (c :: acc) rest
          | none, none => none
        else if isLineChar c then linesBody mark fuel (c :: acc) rest
        else none

/-- A line end right behind the opening is not part of the string. -/
def dropFirstLineEnd (cs : List Char) : List Char := (lineEnd? cs).getD cs

def string? : Reader String
  | '"' :: '"' :: '"' :: rest =>
    (linesBody '"' (rest.length + 1) [] (dropFirstLineEnd rest)).map fun (s, r) =>
      (String.ofList s, r)
  | '\'' :: '\'' :: '\'' :: rest =>
    (linesBody '\'' (rest.length + 1) [] (dropFirstLineEnd rest)).map fun (s, r) =>
      (String.ofList s, r)
  | '"' :: rest => (quotedBody (rest.length + 1) [] rest).map fun (s, r) => (String.ofList s, r)
  | '\'' :: rest => (literalBody [] rest).map fun (s, r) => (String.ofList s, r)
  | _ => none

def isKeyChar (c : Char) : Bool := c.isAlphanum || c = '_' || c = '-'

/-- One part of a key; a string as a key keeps to one line. -/
def keyPart : Reader String
  | '"' :: rest => (quotedBody (rest.length + 1) [] rest).map fun (s, r) => (String.ofList s, r)
  | '\'' :: rest => (literalBody [] rest).map fun (s, r) => (String.ofList s, r)
  | cs =>
    match cs.takeWhile isKeyChar with
    | [] => none
    | name => some (String.ofList name, cs.dropWhile isKeyChar)

def keyParts : Nat → Reader (List String)
  | 0, _ => none
  | fuel + 1, cs => do
    let (part, rest) ← keyPart (cs.dropWhile isSpace)
    match rest.dropWhile isSpace with
    | '.' :: more =>
      let (parts, rest) ← keyParts fuel more
      return (part :: parts, rest)
    | rest => return ([part], rest)

def depthLimit : Nat := 80

def key : Reader (List String) := keyParts (depthLimit - 1)

end LiveLesson.Toml
