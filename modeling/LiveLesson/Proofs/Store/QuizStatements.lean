import LiveLesson.Proofs.Quiz.Table
import LiveLesson.Proofs.Store.Joins
import LiveLesson.Proofs.Store.SessionStatements

/-!
What the commands on the quiz do to a database that keeps questions and answers: each reply, as it
is read, and the relations that are left. An answer is inserted for each row of its question, of
which there is one at most, and a tally counts the rows in which the question stands beside an
answer.
-/

namespace LiveLesson

structure StoredAnswer where
  id : Int
  answer : NewAnswer
  submittedAt : Timestamp

namespace StoredAnswer

def toRow (a : StoredAnswer) : Row := Database.answerRow a.id a.submittedAt a.answer

end StoredAnswer

/-- The quiz as a database keeps it, with the identifiers that it gave out last. -/
structure StoredQuiz where
  lastQuestion : Int
  questions : List Question
  lastAnswer : Int
  answers : List StoredAnswer

namespace StoredQuiz

def table (u : StoredQuiz) : QuizTable :=
  ⟨u.lastQuestion, u.questions, u.answers.map StoredAnswer.answer⟩

def withQuestion (u : StoredQuiz) (q : Question) : StoredQuiz :=
  { u with lastQuestion := u.lastQuestion + 1, questions := u.questions ++ [q] }

def withAnswer (u : StoredQuiz) (a : NewAnswer) (now : Timestamp) : StoredQuiz :=
  { u with lastAnswer := u.lastAnswer + 1, answers := u.answers ++ [⟨u.lastAnswer + 1, a, now⟩] }

theorem table_withAnswer (u : StoredQuiz) (a : NewAnswer) (now : Timestamp) :
    (u.withAnswer a now).table = { u.table with answers := u.table.answers ++ [a] } := by
  simp [table, withAnswer]

def insertAnswer (u : StoredQuiz) (a : NewAnswer) (now : Timestamp) : StoredQuiz :=
  if u.table.Knows a.question then u.withAnswer a now else u

theorem lastQuestion_insertAnswer (u : StoredQuiz) (a : NewAnswer) (now : Timestamp) :
    (u.insertAnswer a now).lastQuestion = u.lastQuestion := by
  unfold insertAnswer
  split <;> rfl

theorem table_insertAnswer (u : StoredQuiz) (a : NewAnswer) (now : Timestamp) :
    (u.insertAnswer a now).table = (u.table.insertAnswer a).2 := by
  unfold insertAnswer
  split
  · next hknown => rw [table_withAnswer, QuizTable.insertAnswer_of_knows hknown]
  · next hunknown => rw [QuizTable.insertAnswer_of_not_knows hunknown]

end StoredQuiz

namespace Database

def storedRelation (lastId : Int) (answers : List StoredAnswer) : Relation where
  columns := answerColumns
  stamped := ["submitted_at"]
  unique := ["id"]
  lastId := lastId
  rows := answers.map StoredAnswer.toRow

/-- The database keeps these questions and answers. -/
structure HoldsQuiz (d : Database) (u : StoredQuiz) : Prop where
  questions : d.relation? Command.questions = some (questionRelation u.lastQuestion u.questions)
  answers : d.relation? Command.answers = some (storedRelation u.lastAnswer u.answers)

variable {d : Database} {u : StoredQuiz}

theorem HoldsQuiz.put_questions (h : d.HoldsQuiz u) (q : Question) :
    (d.put Command.questions (questionRelation (u.lastQuestion + 1) (u.questions ++ [q]))).HoldsQuiz
      (u.withQuestion q) where
  questions := relation?_put h.questions
  answers := (relation?_put_of_ne (by decide) _).trans h.answers

theorem HoldsQuiz.put_answers (h : d.HoldsQuiz u) (l : Int) (answers : List StoredAnswer) :
    (d.put Command.answers (storedRelation l answers)).HoldsQuiz
    { u with lastAnswer := l, answers := answers } where
  questions := (relation?_put_of_ne (by decide) _).trans h.questions
  answers := relation?_put h.answers

end Database

namespace Question

def qualified (q : Question) : Row := q.toRow.qualify "q"

def beside (q : Question) : Option StoredAnswer → Row
  | some a => q.qualified ++ a.toRow.qualify "a"
  | none => q.qualified ++ Row.empty (Database.answerColumns.map fun c => "a" ++ "." ++ c)

variable (q : Question)

theorem cell_id : Row.cell q.toRow "id" = .integer q.id.value := rfl

theorem cell_course : Row.cell q.toRow "course_id" = .integer q.course.value := rfl

theorem cell_qualified_id : Row.cell q.qualified "q.id" = .integer q.id.value := rfl

theorem cell_qualified_append (row : Row) :
    Row.cell (q.qualified ++ row) "q.id" = .integer q.id.value := rfl

theorem cell_beside_id (a : Option StoredAnswer) :
    Row.cell (q.beside a) "q.id" = .integer q.id.value := by
  cases a <;> rfl

end Question

namespace Condition

variable (q : Question) (now : Timestamp)

theorem holds_question {course : CourseId} {id : QuestionId} :
    (both (Command.equalsParameter "id" 1) (Command.equalsParameter "course_id" 2)).holds
      ⟨[.integer id.value, .integer course.value], now⟩ q.toRow =
        (q.id == id && q.course == course) := by
  rw [holds_both, holds_equalsId q.cell_id rfl, holds_equalsId q.cell_course rfl]

variable (id : QuestionId) (ps : List Cell)

theorem holds_qualified_id :
    (Command.equalsParameter "q.id" 1).holds ⟨.integer id.value :: ps, now⟩ q.qualified =
      (q.id == id) :=
  holds_equalsId q.cell_qualified_id rfl

theorem holds_qualified_append (row : Row) :
    (Command.equalsParameter "q.id" 1).holds ⟨.integer id.value :: ps, now⟩ (q.qualified ++ row) =
      (q.id == id) :=
  holds_equalsId (q.cell_qualified_append row) rfl

theorem holds_answers (b : Binding) (a : StoredAnswer) :
    (equals (.column "a.question_id") (.column "q.id")).holds b (q.beside (some a)) =
      (a.answer.question == q.id) :=
  beq_integer_value a.answer.question q.id

theorem holds_correct (b : Binding) (a : StoredAnswer) :
    (equals (.column "a.answer") (.column "q.answer")).holds b (q.beside (some a)) =
      (a.answer.answer == q.answer) := by
  have hcells : (equals (.column "a.answer") (.column "q.answer")).holds b (q.beside (some a)) =
      (Cell.text a.answer.answer == Cell.text q.answer) := rfl
  rw [hcells, Bool.eq_iff_iff, beq_iff_eq, beq_iff_eq, Cell.text.injEq]

end Condition

namespace Database

variable {d : Database} {u : StoredQuiz} (now : Timestamp) (media : Except MediaError Unit)

theorem clashes_eq_false {r : Relation} (hunique : r.unique = ["id"]) {row : Row}
    (h : ∀ old ∈ r.rows, old.cell "id" ≠ row.cell "id") : r.clashes row = false := by
  rw [Relation.clashes, hunique]
  simpa using h

theorem HoldsQuiz.createQuestion (h : d.HoldsQuiz u)
    (hfresh : ∀ q ∈ u.questions, q.id.value ≠ u.lastQuestion + 1) (q : NewQuestion) :
    let r := answer now media (.createQuestion q) d
    let created := (u.table.create q now).1
    r.1 = .ok created ∧ r.2.HoldsQuiz (u.withQuestion created) := by
  intro r created
  have hrow : (questionRelation u.lastQuestion u.questions).complete now
      (["course_id", "question_type", "content", "options", "answer"].zip
        ([Term.parameter 1, .parameter 2, .parameter 3, .parameter 4, .parameter 5].map
          (Term.value ⟨(Command.createQuestion q).parameters, now⟩ []))) = created.toRow := rfl
  have hclash : (questionRelation u.lastQuestion u.questions).clashes created.toRow = false := by
    refine clashes_eq_false rfl fun old hold => ?_
    obtain ⟨p, hp, rfl⟩ := List.mem_map.1 hold
    exact fun hid => hfresh p hp (Cell.integer.inj hid)
  have hr : r = ((Reply.done [created.toRow] 1).single Question.ofRow,
      d.put Command.questions (questionRelation (u.lastQuestion + 1)
        (u.questions ++ [created]))) := by
    simp only [r, answer, Call.command?, Command.execute, Command.createQuestion, Statement.execute,
      h.questions]
    simp only [Command.createQuestion] at hrow
    rw [Relation.add, hrow, hclash]
    simp only [questionRelation, List.map_append]
    rfl
  rw [hr]
  exact ⟨created.ofRow_toRow, h.put_questions created⟩

theorem HoldsQuiz.findQuestion (h : d.HoldsQuiz u) (course : CourseId) (id : QuestionId) :
    answer now media (.findQuestion course id) d = (.ok (u.table.findForCourse course id), d) := by
  have hfound := filter_toRow (b := ⟨[.integer id.value, .integer course.value], now⟩)
    (fun q => Condition.holds_question q now) u.questions
  simp only [answer, Call.command?, Command.findQuestion, Command.execute, Statement.execute,
    h.questions, questionRelation, hfound, List.map_map]
  exact congrArg (·, d) ((optional_rows Question.ofRow_toRow _ _).trans
    (congrArg Except.ok List.head?_filter))

/-- The columns of an answer that its command fills; the others the relation completes. -/
def givenRow (a : NewAnswer) : Row :=
  [("question_id", .integer a.question.value), ("student_id", .integer a.student.value),
    ("answer", .text a.answer)]

theorem addAll_answer (hfresh : ∀ a ∈ u.answers, a.id ≠ u.lastAnswer + 1) (a : NewAnswer) :
    (storedRelation u.lastAnswer u.answers).addAll now [givenRow a] =
      some (storedRelation (u.withAnswer a now).lastAnswer (u.withAnswer a now).answers) := by
  have hrow : (storedRelation u.lastAnswer u.answers).complete now (givenRow a) =
      (StoredAnswer.mk (u.lastAnswer + 1) a now).toRow := rfl
  have hclash : (storedRelation u.lastAnswer u.answers).clashes
      (StoredAnswer.mk (u.lastAnswer + 1) a now).toRow =
      false := by
    refine clashes_eq_false rfl fun old hold => ?_
    obtain ⟨b, hb, rfl⟩ := List.mem_map.1 hold
    exact fun hid => hfresh b hb (Cell.integer.inj hid)
  simp only [Relation.addAll, Relation.add, hrow, hclash]
  simp [storedRelation, StoredQuiz.withAnswer]

theorem filter_qualified (hdistinct : u.questions.Pairwise fun p q => p.id ≠ q.id) (id : QuestionId)
    (ps : List Cell) :
    (((questionRelation u.lastQuestion u.questions).rows.map (Row.qualify "q")).filter
      ((Command.equalsParameter "q.id" 1).holds ⟨.integer id.value :: ps, now⟩)) =
      (u.table.question? id).toList.map Question.qualified := by
  rw [questionRelation, List.map_map]
  exact (filter_toRow (fun q => Condition.holds_qualified_id q now id ps) u.questions).trans
    (congrArg _ (QuizTable.filter_eq_find? hdistinct fun q hq => beq_iff_eq.1 hq))

theorem HoldsQuiz.insertAnswer (h : d.HoldsQuiz u)
    (hdistinct : u.questions.Pairwise fun p q => p.id ≠ q.id)
    (hfresh : ∀ a ∈ u.answers, a.id ≠ u.lastAnswer + 1) (a : NewAnswer) :
    let r := answer now media (.insertAnswer a) d
    r.1 = .ok (decide (u.table.Knows a.question)) ∧
      r.2.HoldsQuiz (u.insertAnswer a now) := by
  intro r
  have hfound := filter_qualified now hdistinct a.question [.integer a.student.value,
    .text a.answer]
  simp only [r, answer, Call.command?, Command.execute, Command.insertAnswer, Statement.execute,
    h.questions, h.answers, hfound]
  cases hq : u.table.question? a.question with
  | none =>
    have hunknown := QuizTable.question?_eq_none_iff.1 hq
    rw [StoredQuiz.insertAnswer, if_neg hunknown, decide_eq_false hunknown]
    exact ⟨rfl, h.put_answers u.lastAnswer u.answers⟩
  | some q =>
    have hknown := QuizTable.knows_of_question? hq
    have hrow : ["question_id", "student_id", "answer"].zip
        ([Term.column "q.id", .parameter 2, .parameter 3].map
        (Term.value ⟨[.integer a.question.value, .integer a.student.value, .text a.answer],
          now⟩ q.qualified)) =
        givenRow a := by
      rw [givenRow, ← QuizTable.id_of_question? hq]
      rfl
    simp only [Option.toList_some, List.map_singleton, hrow, addAll_answer now hfresh]
    rw [StoredQuiz.insertAnswer, if_pos hknown, decide_eq_true hknown]
    exact ⟨rfl, h.put_answers _ _⟩

theorem joinLeft_question (b : Binding) (q : Question) (answers : List StoredAnswer) :
    joinLeft b (.equals (.column "a.question_id") (.column "q.id"))
      (answerColumns.map fun c => "a" ++ "." ++ c)
      [q.qualified] ((answers.map StoredAnswer.toRow).map (Row.qualify "a")) =
      (matched (answers.filter fun a => a.answer.question == q.id)).map q.beside := by
  have hfound : ((answers.map StoredAnswer.toRow).map (Row.qualify "a")).filter (fun r =>
      (Condition.equals (.column "a.question_id") (.column "q.id")).holds b (q.qualified ++ r)) =
      (answers.filter fun a => a.answer.question == q.id).map fun a => a.toRow.qualify "a" := by
    rw [List.map_map, List.filter_map]
    exact congrArg _ (List.filter_congr fun a _ => Condition.holds_answers q b a)
  rw [joinLeft, List.flatMap_singleton, hfound]
  cases answers.filter fun a => a.answer.question == q.id with
  | nil => rfl
  | cons a given => simp [matched, Question.beside]

theorem tally_outputs (b : Binding) (q : Question) (given : List StoredAnswer) :
    [Output.column "q.id" "question_id", .count "a.id" none "total",
      .count "a.id" (some (.equals (.column "a.answer") (.column "q.answer"))) "correct"].map
        (Output.value b ((matched given).map q.beside)) =
      [("question_id", .integer q.id.value), ("total", .integer given.length),
        ("correct", .integer (given.filter fun a => a.answer.answer == q.answer).length)] := by
  have hid : (Output.column "q.id" "question_id").value b ((matched given).map q.beside) =
      ("question_id", .integer q.id.value) := by
    cases given <;> rfl
  have hfull : ∀ a, (q.beside (some a)).cell "a.id" ≠ .null := fun a h => by cases h
  have htotal : (Output.count "a.id" none "total").value b ((matched given).map q.beside) =
      ("total", .integer given.length) := by
    rw [value_count rfl hfull (r := fun _ => true) fun _ => rfl, List.filter_true]
  have hcorrect : (Output.count "a.id" (some (.equals (.column "a.answer") (.column "q.answer")))
      "correct").value b
      ((matched given).map q.beside) =
        ("correct", .integer (given.filter fun a => a.answer.answer == q.answer).length) := by
    refine value_count rfl hfull (fun a => ?_) given
    exact Condition.holds_correct q b a
  simp only [List.map_cons, List.map_nil, hid, htotal, hcorrect]

/-- The rows that a tally is counted from. -/
theorem joined_question (hdistinct : u.questions.Pairwise fun p q => p.id ≠ q.id)
    (id : QuestionId) :
    (joinLeft ⟨[.integer id.value], now⟩ (.equals (.column "a.question_id") (.column "q.id"))
      ((storedRelation u.lastAnswer u.answers).columns.map fun c => "a" ++ "." ++ c)
      ((questionRelation u.lastQuestion u.questions).rows.map (Row.qualify "q"))
      ((storedRelation u.lastAnswer u.answers).rows.map (Row.qualify "a"))).filter
        ((Command.equalsParameter "q.id" 1).holds ⟨[.integer id.value], now⟩) =
      (u.table.question? id).toList.flatMap fun q =>
        (matched (u.answers.filter fun a => a.answer.question == q.id)).map q.beside := by
  rw [filter_joinLeft (p := (Command.equalsParameter "q.id" 1).holds ⟨[.integer id.value], now⟩),
    filter_qualified now hdistinct id []]
  · cases u.table.question? id with
    | none => rfl
    | some q => exact (joinLeft_question _ q u.answers).trans (List.flatMap_singleton _ _).symm
  · intro l hl r
    obtain ⟨row, hrow, rfl⟩ := List.mem_map.1 hl
    obtain ⟨q, _, rfl⟩ := List.mem_map.1 hrow
    exact (Condition.holds_qualified_append q now id [] r).trans
      (Condition.holds_qualified_id q now id []).symm

theorem HoldsQuiz.tally (h : d.HoldsQuiz u)
    (hdistinct : u.questions.Pairwise fun p q => p.id ≠ q.id) (id : QuestionId) :
    answer now media (.tally id) d = (.ok (u.table.tally id), d) := by
  simp only [answer, Call.command?, Command.execute, Command.tally, Statement.execute,
    h.questions, h.answers, joined_question now hdistinct id, QuizTable.tally]
  cases hq : u.table.question? id with
  | none => rfl
  | some q =>
    have hgroups : groupsOf "q.id"
        ((matched (u.answers.filter fun a => a.answer.question == q.id)).map q.beside) =
        [(matched (u.answers.filter fun a => a.answer.question == q.id)).map q.beside] := by
      refine groupsOf_of_constant (x := .integer q.id.value) (by simp [matched_ne_nil])
        fun row hrow => ?_
      obtain ⟨a, _, rfl⟩ := List.mem_map.1 hrow
      exact q.cell_beside_id a
    obtain rfl := QuizTable.id_of_question? hq
    simp only [Option.toList_some, List.flatMap_singleton, hgroups, List.map_singleton,
      tally_outputs]
    simp only [StoredQuiz.table, List.filter_map, List.length_map]
    rfl

end Database

end LiveLesson
