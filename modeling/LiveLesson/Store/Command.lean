import LiveLesson.Quiz.Payload
import LiveLesson.Store.Statement

/-!
What the store asks the database for, each time one statement with its parameters, and how the
replies are read. A change of status names the status it leaves in its condition, so that the
database lets one of several through.
-/

namespace LiveLesson

structure Command where
  statement : Statement
  parameters : List Cell
  deriving DecidableEq, Repr

namespace Command

def execute (c : Command) (now : Timestamp) (d : Database) : Reply × Database :=
  c.statement.execute ⟨c.parameters, now⟩ d

def sessions : String := "live_sessions"

def equalsParameter (column : String) (number : Nat) : Condition :=
  .equals (.column column) (.parameter number)

def insertPending (course : CourseId) (key : String) : Command where
  statement := .insert sessions ["course_id", "stream_key", "status"]
    [.parameter 1, .parameter 2, .parameter 3] Session.columns
  parameters := [.integer course.value, .text key, .text Status.pending.text]

def findSession (id : SessionId) : Command where
  statement := .select Session.columns sessions (equalsParameter "id" 1)
  parameters := [.integer id.value]

def markProvisioned (id : SessionId) : Command where
  statement := .update sessions "provisioned_at" .now []
    (.both (equalsParameter "id" 1) (.isNull (.column "provisioned_at")))
  parameters := [.integer id.value]

def momentColumn : Transition → String
  | .start => "started_at"
  | .finish => "ended_at"

def transition (column : String) (named : Cell) (t : Transition) : Command where
  statement := .update sessions "status" (.parameter 1) [(momentColumn t, .now)]
    (.both (equalsParameter column 2) (equalsParameter "status" 3))
  parameters := [.text t.target.text, named, .text t.source.text]

def transitionById (id : SessionId) (t : Transition) : Command :=
  transition "id" (.integer id.value) t

def transitionByKey (key : String) (t : Transition) : Command :=
  transition "stream_key" (.text key) t

def deleteSession (id : SessionId) : Command where
  statement := .delete sessions (equalsParameter "id" 1)
  parameters := [.integer id.value]

def deleteStale (cutoff : Timestamp) : Command where
  statement := .delete sessions
    (.both (equalsParameter "status" 1)
      (.both (.isNull (.column "provisioned_at")) (.before (.column "created_at") (.parameter 2))))
  parameters := [.text Status.pending.text, .moment cutoff]

def questions : String := "questions"

def answers : String := "answers"

def createQuestion (q : NewQuestion) : Command where
  statement := .insert questions ["course_id", "question_type", "content", "options", "answer"]
    [.parameter 1, .parameter 2, .parameter 3, .parameter 4, .parameter 5] Question.columns
  parameters :=
    [.integer q.course.value, .text q.type.text, .text q.content, .texts q.options, .text q.answer]

def findQuestion (course : CourseId) (id : QuestionId) : Command where
  statement := .select Question.columns questions
    (.both (equalsParameter "id" 1) (equalsParameter "course_id" 2))
  parameters := [.integer id.value, .integer course.value]

def insertAnswer (a : NewAnswer) : Command where
  statement := .insertFrom answers ["question_id", "student_id", "answer"]
    [.column "q.id", .parameter 2, .parameter 3] ⟨questions, "q"⟩ (equalsParameter "q.id" 1)
  parameters := [.integer a.question.value, .integer a.student.value, .text a.answer]

def tally (id : QuestionId) : Command where
  statement := .count
    [.column "q.id" "question_id", .count "a.id" none "total",
      .count "a.id" (some (.equals (.column "a.answer") (.column "q.answer"))) "correct"]
    ⟨questions, "q"⟩ ⟨answers, "a"⟩ (.equals (.column "a.question_id") (.column "q.id"))
    (equalsParameter "q.id" 1) "q.id"
  parameters := [.integer id.value]

def ping : Command := ⟨.ping, []⟩

end Command

namespace Reply

def rows : Reply → Except StoreError (List Row)
  | .done rows _ => .ok rows
  | .refused message => .error (.database message)
  | .lost => .error .disconnected

def affected : Reply → Except StoreError Nat
  | .done _ n => .ok n
  | .refused message => .error (.database message)
  | .lost => .error .disconnected

def optional {α : Type} (ofRow : Row → Except StoreError α) (r : Reply) :
    Except StoreError (Option α) := do
  match ← r.rows with
  | [] => return none
  | row :: _ => return some (← ofRow row)

def single {α : Type} (ofRow : Row → Except StoreError α) (r : Reply) : Except StoreError α := do
  match ← r.rows with
  | [] => throw .rowNotFound
  | row :: _ => ofRow row

def changed (r : Reply) : Except StoreError Bool := return 0 < (← r.affected)

def finished (r : Reply) : Except StoreError Unit := return (← r.affected) |> fun _ => ()

end Reply

end LiveLesson
