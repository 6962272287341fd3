import LiveLesson.Service.Program

/-!
Both tables as the world that programs run in. Around each call stand the time, a failure that comes
before the call does anything, and the media server's answer.
-/

namespace LiveLesson

structure Tables where
  sessions : SessionTable
  quiz : QuizTable
  deriving DecidableEq, Repr

namespace Tables

def empty : Tables := ⟨.empty, .empty⟩

structure Surroundings where
  now : Timestamp
  fault : Option StoreError
  media : Except MediaError Unit

def withSessions {α : Type} (t : Tables) (r : α × SessionTable) : Except StoreError α × Tables :=
  (.ok r.1, { t with sessions := r.2 })

def withQuiz {α : Type} (t : Tables) (r : α × QuizTable) : Except StoreError α × Tables :=
  (.ok r.1, { t with quiz := r.2 })

/-- A call on the tables, no failure added. -/
def perform (s : Surroundings) (t : Tables) : (c : Call) → c.Outcome × Tables
  | .insertPending course key =>
    let (r, sessions) := t.sessions.insertPending course key s.now
    (r, { t with sessions := sessions })
  | .findSession id => (Except.ok (t.sessions.find? id), t)
  | .markProvisioned id => t.withSessions (t.sessions.markProvisioned id s.now)
  | .transitionById id tr => t.withSessions (t.sessions.transitionById id tr s.now)
  | .transitionByKey key tr => t.withSessions (t.sessions.transitionByKey key tr s.now)
  | .deleteSession id => t.withSessions (t.sessions.delete id)
  | .createQuestion q => t.withQuiz (t.quiz.create q s.now)
  | .findQuestion course id => (Except.ok (t.quiz.findForCourse course id), t)
  | .insertAnswer a => t.withQuiz (t.quiz.insertAnswer a)
  | .tally id => (Except.ok (t.quiz.tally id), t)
  | .checkDatabase => (Except.ok (), t)
  | .provision _ => (s.media, t)

/-- A store error as the failure of a call; the media server's answer is not the store's. -/
def fault? (s : Surroundings) : (c : Call) → Option c.Failure
  | .provision _ => none
  | .insertPending .. | .findSession _ | .markProvisioned _ | .transitionById
    .. | .transitionByKey ..
  | .deleteSession _ | .createQuestion _ | .findQuestion .. | .insertAnswer _ | .tally _
  | .checkDatabase => s.fault

def answer (s : Surroundings) (c : Call) (t : Tables) : c.Outcome × Tables :=
  match fault? s c with
  | some e => (.error e, t)
  | none => t.perform s c

def handler (around : Call → Surroundings) : Handler Tables := fun c t => answer (around c) c t

end Tables

end LiveLesson
