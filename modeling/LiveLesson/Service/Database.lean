import LiveLesson.Service.Interleaving
import LiveLesson.Store.Command

/-!
A database as the world that programs run in: every call on the store is one command, and its
outcome is read from the reply.
-/

namespace LiveLesson

namespace Call

def command? : Call → Option Command
  | insertPending course key => some (.insertPending course key)
  | findSession id => some (.findSession id)
  | markProvisioned id => some (.markProvisioned id)
  | transitionById id t => some (.transitionById id t)
  | transitionByKey key t => some (.transitionByKey key t)
  | deleteSession id => some (.deleteSession id)
  | createQuestion q => some (.createQuestion q)
  | findQuestion course id => some (.findQuestion course id)
  | insertAnswer a => some (.insertAnswer a)
  | tally id => some (.tally id)
  | checkDatabase => some .ping
  | provision _ => none

/-- The outcome of a call from the reply to its command; the media server's answer is given
besides. -/
def read (media : Except MediaError Unit) (r : Reply) : (c : Call) → c.Outcome
  | insertPending .. => r.single Session.ofRow
  | findSession _ => r.optional Session.ofRow
  | markProvisioned _ => r.changed
  | transitionById .. => r.changed
  | transitionByKey .. => r.changed
  | deleteSession _ => r.changed
  | createQuestion _ => r.single Question.ofRow
  | findQuestion .. => r.optional Question.ofRow
  | insertAnswer _ => r.changed
  | tally _ => r.optional Tally.ofRow
  | checkDatabase => r.finished
  | provision _ => media

end Call

namespace Database

def sessionRelation (lastId : Int) (sessions : List Session) : Relation where
  columns := Session.columns
  stamped := ["created_at"]
  unique := ["id", "stream_key"]
  lastId := lastId
  rows := sessions.map Session.toRow

def questionRelation (lastId : Int) (questions : List Question) : Relation where
  columns := Question.columns
  stamped := ["created_at"]
  unique := ["id"]
  lastId := lastId
  rows := questions.map Question.toRow

def answerRow (id : Int) (now : Timestamp) (a : NewAnswer) : Row := [
  ("id", .integer id), ("question_id", .integer a.question.value),
  ("student_id", .integer a.student.value),
  ("answer", .text a.answer), ("submitted_at", .moment now)]

def answerColumns : List String := ["id", "question_id", "student_id", "answer", "submitted_at"]

/-- Answers are numbered in the order in which they came. -/
def answerRelation (now : Timestamp) (answers : List NewAnswer) : Relation where
  columns := answerColumns
  stamped := ["submitted_at"]
  unique := ["id"]
  lastId := answers.length
  rows := answers.mapIdx fun i a => answerRow (i + 1) now a

def ofTables (now : Timestamp) (sessions : SessionTable) (quiz : QuizTable) : Database := [
  (Command.sessions, sessionRelation sessions.lastId sessions.rows),
  (Command.questions, questionRelation quiz.lastId quiz.questions),
  (Command.answers, answerRelation now quiz.answers)]

def answer (now : Timestamp) (media : Except MediaError Unit) (c : Call) (d : Database) :
    c.Outcome × Database :=
  match c.command? with
  | some command =>
    let (reply, d) := command.execute now d
    (c.read media reply, d)
  | none => (c.read media .lost, d)

def deleteStale (now cutoff : Timestamp) (d : Database) : Except StoreError Nat × Database :=
  let (reply, d) := (Command.deleteStale cutoff).execute now d
  (reply.affected, d)

/-- A database behind calls that may fail before they reach it. -/
def world : World Database where
  answer around c d :=
    match Tables.fault? around c with
    | some e => (.error e, d)
    | none => answer around.now around.media c d
  cleanUp cutoff d := ((Command.deleteStale cutoff).execute cutoff d).2

end Database

end LiveLesson
