import LiveLesson.Text.Split
import LiveLesson.Url.Basic

/-!
Paths in segments. A segment of one dot is the place itself and one of two dots the place above it;
either may be written with an encoded dot. Paths of files may begin with the letter of a drive,
which is never left.
-/

namespace LiveLesson.Url.Path

open Text

def lowered (s : String) : List Char := s.toList.map Char.toLower

def isDot (s : String) : Bool := lowered s ∈ [".", "%2e"].map String.toList

def isDoubleDot (s : String) : Bool :=
  lowered s ∈ ["..", ".%2e", "%2e.", "%2e%2e"].map String.toList

def drive? : List Char → Option Char
  | [letter, mark] => if letter.isAlpha && (mark = ':' || mark = '|') then some letter else none
  | _ => none

def shorten (kind : SchemeKind) (parts : List String) : List String :=
  match kind, parts.getLast?.bind (drive? ·.toList) with
  | .file, some _ => parts
  | _, _ => parts.dropLast

/-- Goes on to a segment. Behind the last one a dot leaves a slash at the end. -/
def add (kind : SchemeKind) (parts : List String) (isLast : Bool) (segment : List Char) :
    List String :=
  let text := encoded keptInPath segment
  let closing := if isLast then [""] else []
  if isDoubleDot text then shorten kind parts ++ closing
  else if isDot text then parts ++ closing
  else
    match kind, parts, drive? segment with
    | .file, [], some letter => [String.ofList [letter, ':']]
    | _, _, _ => parts ++ [text]

def addAll (kind : SchemeKind) : List String → List (List Char) → List String
  | parts, [] => parts
  | parts, [last] => add kind parts true last
  | parts, segment :: rest => addAll kind (add kind parts false segment) rest

def pieces (kind : SchemeKind) (cs : List Char) : List (List Char) :=
  split '/' (cs.map fun c => if kind.isSlash c then '/' else c)

def dropEmpty : List String → List String
  | "" :: s :: rest => dropEmpty (s :: rest)
  | parts => parts

def follow (kind : SchemeKind) (parts : List String) (cs : List Char) : List String :=
  let reached := addAll kind parts (pieces kind cs)
  if kind = .file then dropEmpty reached else reached

/-- The path that a text spells from the root on. A scheme with no rules of its own knows an empty
path, which is also what stands before a query or a fragment. -/
def read (kind : SchemeKind) (cs : List Char) : List String :=
  match kind, cs with
  | .other, [] => []
  | .other, '?' :: _ => []
  | .other, '#' :: _ => []
  | _, [] => follow kind [] []
  | _, c :: rest => follow kind [] (if kind.isSlash c then rest else c :: rest)

end LiveLesson.Url.Path
