import LiveLesson.Quiz.Question
import LiveLesson.Session.Basic
import LiveLesson.Store.Error

/-!
Rows of a database: cells under the names of their columns. Sessions, questions and results are read
from rows, one column after the other; the first that is missing or holds something else is
reported.
-/

namespace LiveLesson

inductive Cell where
  | null
  | integer (n : Int)
  | text (s : String)
  | texts (xs : List String)
  | moment (t : Timestamp)
  deriving DecidableEq, Repr

namespace Cell

def integer? : Cell → Option Int
  | .integer n => some n
  | _ => none

def text? : Cell → Option String
  | .text s => some s
  | _ => none

def texts? : Cell → Option (List String)
  | .texts xs => some xs
  | _ => none

def moment? : Cell → Option Timestamp
  | .moment t => some t
  | _ => none

def maybeMoment? : Cell → Option (Option Timestamp)
  | .null => some none
  | c => c.moment?.map some

def ofMoment? : Option Timestamp → Cell
  | none => .null
  | some t => .moment t

end Cell

abbrev Row := List (String × Cell)

namespace Row

def cell (row : Row) (name : String) : Cell := (List.lookup name row).getD .null

def read {α : Type} (row : Row) (name : String) (f : Cell → Option α) : Except StoreError α :=
  match List.lookup name row with
  | none => .error (.columnNotFound name)
  | some c =>
    match f c with
    | some a => .ok a
    | none => .error (.columnDecode name)

end Row

namespace Session

def columns : List String :=
  ["id", "course_id", "stream_key", "status", "started_at", "ended_at", "provisioned_at",
    "created_at"]

def toRow (s : Session) : Row := [
  ("id", .integer s.id.value), ("course_id", .integer s.course.value),
  ("stream_key", .text s.streamKey),
  ("status", .text s.status.text), ("started_at", .ofMoment? s.startedAt),
  ("ended_at", .ofMoment? s.endedAt),
  ("provisioned_at", .ofMoment? s.provisionedAt), ("created_at", .moment s.createdAt)]

def ofRow (row : Row) : Except StoreError Session := do
  let id ← row.read "id" Cell.integer?
  let course ← row.read "course_id" Cell.integer?
  let streamKey ← row.read "stream_key" Cell.text?
  let status ← row.read "status" fun c => c.text?.bind Status.ofText?
  let startedAt ← row.read "started_at" Cell.maybeMoment?
  let endedAt ← row.read "ended_at" Cell.maybeMoment?
  let provisionedAt ← row.read "provisioned_at" Cell.maybeMoment?
  let createdAt ← row.read "created_at" Cell.moment?
  return ⟨⟨id⟩, ⟨course⟩, streamKey, status, startedAt, endedAt, provisionedAt, createdAt⟩

theorem ofRow_toRow (s : Session) : ofRow s.toRow = .ok s := by
  obtain ⟨id, course, key, status, started, ended, provisioned, created⟩ := s
  cases status <;> cases started <;> cases ended <;> cases provisioned <;> rfl

end Session

namespace Question

def columns : List String :=
  ["id", "course_id", "question_type", "content", "options", "answer", "created_at"]

def toRow (q : Question) : Row := [
  ("id", .integer q.id.value), ("course_id", .integer q.course.value),
  ("question_type", .text q.type.text),
  ("content", .text q.content), ("options", .texts q.options), ("answer", .text q.answer),
  ("created_at", .moment q.createdAt)]

def ofRow (row : Row) : Except StoreError Question := do
  let id ← row.read "id" Cell.integer?
  let course ← row.read "course_id" Cell.integer?
  let type ← row.read "question_type" fun c => c.text?.bind QuestionType.ofText?
  let content ← row.read "content" Cell.text?
  let options ← row.read "options" Cell.texts?
  let answer ← row.read "answer" Cell.text?
  let createdAt ← row.read "created_at" Cell.moment?
  return ⟨⟨id⟩, ⟨course⟩, type, content, options, answer, createdAt⟩

theorem ofRow_toRow (q : Question) : ofRow q.toRow = .ok q := by
  obtain ⟨id, course, type, content, options, answer, created⟩ := q
  cases type <;> rfl

end Question

namespace Tally

def columns : List String := ["question_id", "total", "correct"]

def ofRow (row : Row) : Except StoreError Tally := do
  let question ← row.read "question_id" Cell.integer?
  let total ← row.read "total" Cell.integer?
  let correct ← row.read "correct" Cell.integer?
  return ⟨⟨question⟩, total, correct⟩

end Tally

end LiveLesson
