import LiveLesson.Quiz.Payload
import LiveLesson.Store.Error

/-!
The questions and answers that are kept. Answers are stored for known questions only, and a
question's result is counted from them each time it is asked for.
-/

namespace LiveLesson

structure QuizTable where
  lastId : Int
  questions : List Question
  answers : List NewAnswer
  deriving DecidableEq, Repr

namespace QuizTable

def empty : QuizTable := ⟨0, [], []⟩

def create (t : QuizTable) (q : NewQuestion) (now : Timestamp) : Question × QuizTable :=
  let created : Question :=
    ⟨⟨t.lastId + 1⟩, q.course, q.type, q.content, q.options, q.answer, now⟩
  (created, { t with lastId := t.lastId + 1, questions := t.questions ++ [created] })

def question? (t : QuizTable) (id : QuestionId) : Option Question :=
  t.questions.find? fun q => q.id == id

def findForCourse (t : QuizTable) (course : CourseId) (id : QuestionId) : Option Question :=
  t.questions.find? fun q => q.id == id && q.course == course

/-- Stores an answer if its question is known, and says so. -/
def insertAnswer (t : QuizTable) (a : NewAnswer) : Bool × QuizTable :=
  if t.questions.any fun q => q.id == a.question then (true, { t with answers := t.answers ++ [a] })
  else (false, t)

/-- All answers to a question and those that are its answer. -/
def tally (t : QuizTable) (id : QuestionId) : Option Tally :=
  (t.question? id).map fun q =>
    let given := t.answers.filter fun a => a.question == id
    ⟨id, given.length, (given.filter fun a => a.answer == q.answer).length⟩

end QuizTable

end LiveLesson
