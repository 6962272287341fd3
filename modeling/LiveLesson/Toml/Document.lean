import LiveLesson.Toml.Scalar
import LiveLesson.Toml.Table
import LiveLesson.Toml.Text

/-!
Documents of TOML, line by line: keys with their values below headers. Lists may go over several
lines and hold comments; a table in braces keeps to one line. A document that breaks a rule is
refused as a whole.
-/

namespace LiveLesson.Toml

open Config

/-- Behind a comment, if one begins here; the end of its line is left. -/
def skipComment : List Char → List Char
  | '#' :: rest => rest.dropWhile isLineChar
  | cs => cs

def skipLines : Nat → List Char → List Char
  | 0, cs => cs
  | fuel + 1, cs =>
    let rest := skipComment (cs.dropWhile isSpace)
    match lineEnd? rest with
    | some rest => skipLines fuel rest
    | none => cs.dropWhile isSpace

def finishLine (cs : List Char) : Option (List Char) :=
  match skipComment (cs.dropWhile isSpace) with
  | [] => some []
  | rest => lineEnd? rest

def endsWord (c : Char) : Bool :=
  c = ' ' || c = '\t' || c = '\n' || c = '\r' || c = ',' || c = ']' || c = '\x7d' || c = '#'

/-- A word; behind a date a blank and a time of day belong to it. -/
def word (cs : List Char) : List Char × List Char :=
  let first := cs.takeWhile fun c => !endsWord c
  match date? first, cs.dropWhile fun c => !endsWord c with
  | some _, ' ' :: rest =>
    let second := rest.takeWhile fun c => !endsWord c
    if (offsetTime? second).isSome then
      (first ++ ' ' :: second, rest.dropWhile fun c => !endsWord c)
    else (first, ' ' :: rest)
  | _, rest => (first, rest)

def items (value : Reader Tree) : Nat → List Tree → Reader (List Tree)
  | 0, _, _ => none
  | fuel + 1, acc, cs =>
    match skipLines cs.length cs with
    | ']' :: rest => some (acc.reverse, rest)
    | cs => do
      let (t, rest) ← value cs
      match skipLines rest.length rest with
      | ',' :: rest => items value fuel (t :: acc) rest
      | ']' :: rest => some ((t :: acc).reverse, rest)
      | _ => none

def keyValue (value : Reader Tree) : Reader (List String × Tree) := fun cs => do
  let (path, rest) ← key cs
  match rest.dropWhile isSpace with
  | '=' :: rest =>
    let (t, rest) ← value (rest.dropWhile isSpace)
    return ((path, t), rest)
  | _ => none

def braced (value : Reader Tree) : Nat → Entries → Reader Entries
  | 0, _, _ => none
  | fuel + 1, es, cs => do
    let ((path, t), rest) ← keyValue value cs
    let es ← es.insert path t
    match rest.dropWhile isSpace with
    | ',' :: rest => braced value fuel es rest
    | '\x7d' :: rest => some (es, rest)
    | _ => none

/-- A value with `depth` levels of lists and tables at most. -/
def value : Nat → Reader Tree
  | depth, cs =>
    match cs, depth with
    | '[' :: rest, depth + 1 => (items (value depth) (rest.length + 1) [] rest).map fun (ts, r) =>
      (.list ts, r)
    | '[' :: _, 0 => none
    | '\x7b' :: rest, depth + 1 =>
      match rest.dropWhile isSpace with
      | '\x7d' :: rest => some (.table [], rest)
      | rest => (braced (value depth) (rest.length + 1) [] rest).map fun (es, r) =>
        (.table (treesOf es), r)
    | '\x7b' :: _, 0 => none
    | '"' :: _, _ => (string? cs).map fun (s, r) => (.text s, r)
    | '\'' :: _, _ => (string? cs).map fun (s, r) => (.text s, r)
    | _, _ =>
      let (w, rest) := word cs
      (scalar? w).map (·, rest)

def headerPath (closing : List Char) (cs : List Char) : Option (List String × List Char) := do
  let (path, rest) ← key cs
  let rest := rest.dropWhile isSpace
  if rest.take closing.length = closing then some (path, rest.drop closing.length) else none

/-- Reads line by line; keys belong to the header above them. -/
def lines : Nat → List String → Entries → List Char → Option Entries
  | 0, _, _, _ => none
  | fuel + 1, header, es, cs =>
    match skipLines cs.length cs with
    | [] => some es
    | '#' :: rest => if rest.all isLineChar then some es else none
    | '[' :: '[' :: rest => do
      let (path, rest) ← headerPath [']', ']'] rest
      lines fuel path (← es.openElement path) (← finishLine rest)
    | '[' :: rest => do
      let (path, rest) ← headerPath [']'] rest
      lines fuel path (← es.openTable path) (← finishLine rest)
    | cs => do
      let ((path, t), rest) ← keyValue (value (depthLimit - 1)) cs
      lines fuel header (← es.insertBelow header path t) (← finishLine rest)

def parse? (s : String) : Option (List (String × Tree)) :=
  let cs := s.toList
  (lines (cs.length + 1) [] [] cs).map treesOf

end LiveLesson.Toml
