import LiveLesson.Text.Integer
import LiveLesson.Text.Percent
import LiveLesson.Text.Split

/-!
Which endpoint a path leads to. A pattern is a list of fixed and variable parts; a variable part
takes any part of the path that is not empty. Paths are matched as they stand, and only what a
variable took is percent-decoded afterwards.
-/

namespace LiveLesson.Http

inductive Endpoint where
  | createSession
  | getSession
  | startSession
  | endSession
  | streamStatus
  | createQuestion
  | pushQuestion
  | submitAnswer
  | questionResult
  | health
  | document
  /-- The entrance of its viewer, whose pages are not part of this library. -/
  | viewer
  deriving DecidableEq, Repr

inductive PathPart where
  | fixed (text : String)
  | variable (name : String)
  deriving DecidableEq, Repr

namespace Endpoint

def all : List Endpoint := [
  .createSession, .getSession, .startSession, .endSession, .streamStatus, .createQuestion,
  .pushQuestion, .submitAnswer, .questionResult, .health, .document, .viewer]

open PathPart in
def pattern : Endpoint → List PathPart
  | createSession => [fixed "api", fixed "live", fixed "sessions"]
  | getSession => [fixed "api", fixed "live", fixed "sessions", .variable "id"]
  | startSession => [fixed "api", fixed "live", fixed "sessions", .variable "id", fixed "start"]
  | endSession => [fixed "api", fixed "live", fixed "sessions", .variable "id", fixed "end"]
  | streamStatus => [fixed "api", fixed "live", fixed "status"]
  | createQuestion => [fixed "api", fixed "question", fixed "create"]
  | pushQuestion =>
    [fixed "api", fixed "question", fixed "push", .variable "course_id", .variable "question_id"]
  | submitAnswer => [fixed "api", fixed "question", fixed "submit"]
  | questionResult => [fixed "api", fixed "question", fixed "result", .variable "question_id"]
  | health => [fixed "api", fixed "health"]
  | document => [fixed "api-docs", fixed "openapi.json"]
  | viewer => [fixed "swagger-ui"]

def isPost : Endpoint → Bool
  | createSession | startSession | endSession | streamStatus | createQuestion | submitAnswer => true
  | _ => false

def allow (e : Endpoint) : String := if e.isPost then "POST" else "GET,HEAD"

def accepts (e : Endpoint) (method : String) : Bool :=
  if e.isPost then method == "POST" else method == "GET" || method == "HEAD"

end Endpoint

/-- What the variable parts of a pattern took, by name. -/
abbrev Captures := List (String × List Char)

def matchParts : List PathPart → List (List Char) → Option Captures
  | [], [] => some []
  | .fixed t :: ps, s :: ss => if t.toList = s then matchParts ps ss else none
  | .variable name :: ps, s :: ss =>
    if s.isEmpty then none else (matchParts ps ss).map ((name, s) :: ·)
  | _, _ => none

def pathOf (target : String) : List Char := target.toList.takeWhile fun c => c != '?' && c != '#'

def route? (target : String) : Option (Endpoint × Captures) :=
  match pathOf target with
  | '/' :: path =>
    let parts := Text.split '/' path
    Endpoint.all.findSome? fun e => (matchParts e.pattern parts).map (e, ·)
  | _ => none

inductive PathError where
  | invalidUtf8 (name : String)
  | notInteger (text : String)
  | notIntegerAt (index : Nat) (text : String)
  deriving DecidableEq, Repr

def PathError.message : PathError → String
  | .invalidUtf8 name => "Invalid URL: Invalid UTF-8 in `" ++ name ++ "`"
  | .notInteger text => "Invalid URL: Cannot parse `" ++ text ++ "` to a `i64`"
  | .notIntegerAt index text =>
    "Invalid URL: Cannot parse value at index " ++ toString index ++ " with value `" ++ text ++
      "` to a `i64`"

def decodeCaptures : Captures → Except PathError (List String)
  | [] => .ok []
  | (name, cs) :: rest =>
    match Text.Utf8.decode? (Text.Percent.decode (Text.Utf8.encode (String.ofList cs))) with
    | none => .error (.invalidUtf8 name)
    | some s => (decodeCaptures rest).map (s :: ·)

def readNumber (s : String) : Option Int := (Text.readInteger (Text.Range.signed 64) s).toOption

def oneNumber (captures : Captures) : Except PathError Int := do
  match ← decodeCaptures captures with
  | [] => throw (.notInteger "")
  | s :: _ =>
    match readNumber s with
    | some n => pure n
    | none => throw (.notInteger s)

def twoNumbers (captures : Captures) : Except PathError (Int × Int) := do
  match ← decodeCaptures captures with
  | s :: t :: _ =>
    match readNumber s, readNumber t with
    | some m, some n => pure (m, n)
    | none, _ => throw (.notIntegerAt 0 s)
    | _, none => throw (.notIntegerAt 1 t)
  | _ => throw (.notIntegerAt 0 "")

end LiveLesson.Http
