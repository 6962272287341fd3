import LiveLesson.Proofs.Store.QuizStatements
import LiveLesson.Service.Database

/-!
Calls on the quiz over the tables and over a database. What one call is answered and what it leaves
is the same on both sides, but for the identifier and the time that each gives to what is new. While
both count and see the time alike, whole runs are the same.
-/

namespace LiveLesson

def Call.concernsQuiz : Call → Bool
  | createQuestion _ | findQuestion .. | insertAnswer _ | tally _ => true
  | _ => false

namespace StoredQuiz

/-- The questions and the answers are those of the table, in whatever order and whatever is
counted. -/
structure Keeps (u : StoredQuiz) (t : QuizTable) : Prop where
  questions : u.questions.Perm t.questions
  answers : (u.answers.map StoredAnswer.answer).Perm t.answers

structure Fresh (u : StoredQuiz) : Prop where
  question : ∀ q ∈ u.questions, q.id.value ≠ u.lastQuestion + 1
  answer : ∀ a ∈ u.answers, a.id ≠ u.lastAnswer + 1

structure InOrder (u : StoredQuiz) : Prop where
  table : u.table.WellFormed
  answers : ∀ a ∈ u.answers, a.id ≤ u.lastAnswer

variable {u : StoredQuiz} {t : QuizTable}

theorem InOrder.fresh (h : u.InOrder) : u.Fresh where
  question q hq hid := h.table.not_knows_next ⟨q, hq, congrArg Id.mk hid⟩
  answer a ha hid := by
    have hle := h.answers a ha
    rw [hid] at hle
    exact Int.not_le.2 (Int.lt_succ _) hle

theorem InOrder.withQuestion (h : u.InOrder) (q : NewQuestion) (now : Timestamp) :
    (u.withQuestion (u.table.create q now).1).InOrder :=
  ⟨h.table.create q now, h.answers⟩

theorem InOrder.insertAnswer (h : u.InOrder) (a : NewAnswer) (now : Timestamp) :
    (u.insertAnswer a now).InOrder where
  table := by
    rw [table_insertAnswer]
    exact h.table.insertAnswer a
  answers := by
    unfold StoredQuiz.insertAnswer
    split
    · intro b hb
      rcases List.mem_append.1 hb with hb | hb
      · exact Int.le_trans (h.answers b hb) (Int.le_add_of_nonneg_right (by decide))
      · obtain rfl := List.mem_singleton.1 hb
        exact Int.le_refl _
    · exact h.answers

namespace Keeps

theorem knows_iff (h : u.Keeps t) {id : QuestionId} : u.table.Knows id ↔ t.Knows id :=
  exists_congr fun _ => and_congr_left' h.questions.mem_iff

theorem insertAnswer (h : u.Keeps t) (a : NewAnswer) (now : Timestamp) :
    (u.insertAnswer a now).Keeps (t.insertAnswer a).2 := by
  unfold StoredQuiz.insertAnswer
  by_cases hknown : t.Knows a.question
  · rw [if_pos (h.knows_iff.2 hknown), QuizTable.insertAnswer_of_knows hknown]
    exact ⟨h.questions, List.map_append ▸ h.answers.append_right [a]⟩
  · rw [if_neg (mt h.knows_iff.1 hknown), QuizTable.insertAnswer_of_not_knows hknown]
    exact h

theorem withQuestion (h : u.Keeps t) (q : Question) :
    (u.withQuestion q).Keeps { t with lastId := t.lastId + 1, questions := t.questions ++ [q] } :=
  ⟨h.questions.append_right [q], h.answers⟩

variable (h : u.Keeps t) (hdistinct : u.questions.Pairwise fun p q => p.id ≠ q.id)

include h hdistinct

theorem findForCourse (course : CourseId) (id : QuestionId) :
    u.table.findForCourse course id = t.findForCourse course id :=
  QuizTable.find?_perm hdistinct (fun _ hq => beq_iff_eq.1 (Bool.and_eq_true_iff.1 hq).1)
    h.questions

theorem tally (id : QuestionId) : u.table.tally id = t.tally id := by
  have hquestion : u.table.question? id = t.question? id :=
    QuizTable.find?_perm hdistinct (fun _ hq => beq_iff_eq.1 hq) h.questions
  have hgiven : (u.table.answersTo id).Perm (t.answersTo id) := h.answers.filter _
  cases hq : t.question? id with
  | none =>
    rw [hq] at hquestion
    rw [QuizTable.tally, QuizTable.tally, hquestion, hq]
    rfl
  | some q =>
    rw [QuizTable.tally_of_question? hq, QuizTable.tally_of_question? (hquestion.trans hq),
      hgiven.length_eq, hgiven.countP_eq]

end Keeps

end StoredQuiz

def World.answerAll {σ : Type} (w : World σ) :
    List (Tables.Surroundings × Call) → σ → List Exchange × σ
  | [], s => ([], s)
  | (around, c) :: rest, s =>
    let (o, s) := w.answer around c s
    let (xs, s) := w.answerAll rest s
    (⟨c, o⟩ :: xs, s)

namespace Database

variable {d : Database} {u : StoredQuiz}

/-- A database that counts and sees the time as the tables do answers a call on the quiz as they
do. -/
theorem HoldsQuiz.answer (h : d.HoldsQuiz u) (hu : u.InOrder) {t : Tables} (ht : u.Keeps t.quiz)
    (hlast : u.lastQuestion = t.quiz.lastId) (around : Tables.Surroundings) {c : Call}
    (hc : c.concernsQuiz = true) :
    (world.answer around c d).1 = (Tables.answer around c t).1 ∧
      ∃ u', (world.answer around c d).2.HoldsQuiz u' ∧ u'.InOrder ∧
      u'.Keeps (Tables.answer around c t).2.quiz ∧
        u'.lastQuestion = (Tables.answer around c t).2.quiz.lastId := by
  simp only [Tables.answer, world]
  cases hfault : Tables.fault? around c with
  | some e => exact ⟨rfl, u, h, hu, ht, hlast⟩
  | none =>
    cases c with
    | createQuestion q =>
      obtain ⟨hanswer, hholds⟩ := h.createQuestion around.now around.media hu.fresh.question q
      have hsame : (u.table.create q around.now).1 = (t.quiz.create q around.now).1 := by
        simp only [QuizTable.create, StoredQuiz.table, hlast]
      refine ⟨hanswer.trans (congrArg Except.ok hsame), _, hholds, hu.withQuestion q around.now, ?_,
        congrArg (· + 1) hlast⟩
      rw [hsame]
      exact ht.withQuestion _
    | findQuestion course id =>
      rw [h.findQuestion around.now around.media course id,
        ht.findForCourse hu.table.distinct course id]
      exact ⟨rfl, u, h, hu, ht, hlast⟩
    | insertAnswer a =>
      obtain ⟨hanswer, hholds⟩ :=
        h.insertAnswer around.now around.media hu.table.distinct hu.fresh.answer a
      refine ⟨hanswer.trans ?_, _, hholds, hu.insertAnswer a around.now,
        ht.insertAnswer a around.now, ?_⟩
      · rw [decide_eq_decide.2 ht.knows_iff, ← QuizTable.insertAnswer_fst]
        rfl
      · rw [u.lastQuestion_insertAnswer a around.now, hlast]
        exact (t.quiz.questions_insertAnswer a).2.symm
    | tally id =>
      rw [h.tally around.now around.media hu.table.distinct id, ht.tally hu.table.distinct id]
      exact ⟨rfl, u, h, hu, ht, hlast⟩
    | _ => cases hc

theorem HoldsQuiz.answerAll (h : d.HoldsQuiz u) (hu : u.InOrder) {t : Tables} (ht : u.Keeps t.quiz)
    (hlast : u.lastQuestion = t.quiz.lastId) {calls : List (Tables.Surroundings × Call)}
    (hcalls : ∀ x ∈ calls, x.2.concernsQuiz = true) :
    (world.answerAll calls d).1 = (Tables.world.answerAll calls t).1 ∧
      ∃ u', (world.answerAll calls d).2.HoldsQuiz u' ∧
      u'.Keeps (Tables.world.answerAll calls t).2.quiz := by
  induction calls generalizing d u t with
  | nil => exact ⟨rfl, u, h, ht⟩
  | cons x rest ih =>
    obtain ⟨hx, hrest⟩ := List.forall_mem_cons.1 hcalls
    obtain ⟨hanswer, u', h', hu', ht', hlast'⟩ := h.answer hu ht hlast x.1 hx
    obtain ⟨hanswers, hend⟩ := ih h' hu' ht' hlast' hrest
    refine ⟨?_, hend⟩
    simp only [World.answerAll, hanswer, hanswers]
    rfl

theorem ofTables_holdsQuiz (now : Timestamp) (sessions : SessionTable) (t : QuizTable) :
    (ofTables now sessions t).HoldsQuiz
      ⟨t.lastId, t.questions, t.answers.length, t.answers.mapIdx fun i a => ⟨i + 1, a, now⟩⟩ where
  questions := rfl
  answers := by
    have hrows : (t.answers.mapIdx fun i a => answerRow (i + 1) now a) =
        (t.answers.mapIdx fun i a => (⟨i + 1, a, now⟩ : StoredAnswer)).map StoredAnswer.toRow :=
      List.ext_getElem?
        fun i => by simp [List.getElem?_mapIdx, Function.comp_def, StoredAnswer.toRow]
    exact congrArg (fun rows => some { answerRelation now t.answers with rows := rows }) hrows

end Database

/-- A database does with the quiz what the table does. On one call over the same questions and
answers, whatever each side counts and whatever time it sees, the answers are the same, and so are
the questions and answers that are left, but for the identifier and the time that each gives to what
is new; the database must have an identifier left for it that is not in use. An answer is accepted
and one answer is added exactly if the question is known; an unknown question has no tally, and one
without answers has an empty tally. Where both sides count and see the time alike, they answer all
calls of a run alike, and have the same in the end. -/
theorem quiz_stores_agree (d : Database) (u : StoredQuiz) (hd : d.HoldsQuiz u)
    (hdistinct : u.questions.Pairwise fun p q => p.id ≠ q.id) :
    (∀ (t : QuizTable) (now now' : Timestamp) (media : Except MediaError Unit), u.Keeps t →
      (u.Fresh → ∀ q, let created := (t.create q now).1
        let created' := { created with id := ⟨u.lastQuestion + 1⟩, createdAt := now' }
        let r := Database.answer now' media (.createQuestion q) d
        r.1 = .ok created' ∧ r.2.HoldsQuiz (u.withQuestion created') ∧
          (t.create q now).2 =
            { t with lastId := t.lastId + 1, questions := t.questions ++ [created] }) ∧
      (∀ course id, Database.answer now' media (.findQuestion course id) d =
        (.ok (t.findForCourse course id), d)) ∧
      (u.Fresh → ∀ a, let r := Database.answer now' media (.insertAnswer a) d
        r.1 = .ok (t.insertAnswer a).1 ∧ r.2.HoldsQuiz (u.insertAnswer a now') ∧
          (u.insertAnswer a now').Keeps (t.insertAnswer a).2 ∧
          ((t.insertAnswer a).1 = true ↔ t.Knows a.question) ∧
          (t.insertAnswer a).2.answers = t.answers ++ if t.Knows a.question then [a] else []) ∧
      ∀ id, Database.answer now' media (.tally id) d = (.ok (t.tally id), d) ∧
        (t.tally id = none ↔ ¬ t.Knows id) ∧
        (t.Knows id → (∀ a ∈ t.answers, a.question ≠ id) → t.tally id = some ⟨id, 0, 0⟩)) ∧
    ∀ (t : Tables) (calls : List (Tables.Surroundings × Call)), u.Keeps t.quiz →
    u.lastQuestion = t.quiz.lastId →
      u.InOrder → (∀ x ∈ calls, x.2.concernsQuiz = true) →
      (Database.world.answerAll calls d).1 = (Tables.world.answerAll calls t).1 ∧
        ∃ u', (Database.world.answerAll calls d).2.HoldsQuiz u' ∧
          u'.Keeps (Tables.world.answerAll calls t).2.quiz := by
  refine ⟨fun t now now' media ht => ⟨fun hfresh q => ?_, fun course id => ?_, fun hfresh a => ?_,
    fun id => ⟨?_,
    QuizTable.tally_eq_none_iff, QuizTable.tally_of_unanswered⟩⟩,
    fun t calls ht hlast hu hcalls => hd.answerAll hu ht hlast hcalls⟩
  · obtain ⟨hanswer, hholds⟩ := hd.createQuestion now' media hfresh.question q
    exact ⟨hanswer, hholds, rfl⟩
  · rw [hd.findQuestion now' media course id, ht.findForCourse hdistinct course id]
  · obtain ⟨hanswer, hholds⟩ := hd.insertAnswer now' media hdistinct hfresh.answer a
    refine ⟨hanswer.trans ?_, hholds, ht.insertAnswer a now', ?_, t.answers_insertAnswer a⟩
    · rw [t.insertAnswer_fst a, decide_eq_decide.2 ht.knows_iff]
    · rw [t.insertAnswer_fst a, decide_eq_true_iff]
  · rw [hd.tally now' media hdistinct id, ht.tally hdistinct id]

def answeredOnce : QuizTable :=
  ⟨7, [⟨⟨7⟩, ⟨1⟩, .shortAnswer, "c", [], "x", ⟨0, 0⟩⟩], [⟨⟨7⟩, ⟨5⟩, "x"⟩]⟩

def nextQuestion : List (Tables.Surroundings × Call) :=
  [(⟨⟨9, 0⟩, none, .ok ()⟩, .createQuestion ⟨⟨2⟩, .shortAnswer, "d", [], "y"⟩),
    (⟨⟨9, 0⟩, none, .ok ()⟩, .insertAnswer ⟨⟨8⟩, ⟨5⟩, "x"⟩), (⟨⟨9, 0⟩, none, .ok ()⟩, .tally ⟨8⟩)]

/-- A table that counts from elsewhere accepts the same answers and has the same tally. Where the
count is the same, the calls that follow are answered alike. -/
theorem answeredOnce_agrees :
    let d := Database.ofTables ⟨0, 0⟩ .empty answeredOnce
    let t := { answeredOnce with lastId := 3 }
    (Database.answer ⟨9, 0⟩ (.ok ()) (.insertAnswer ⟨⟨7⟩, ⟨6⟩, "z"⟩) d).1 =
      .ok (t.insertAnswer ⟨⟨7⟩, ⟨6⟩, "z"⟩).1 ∧
      (Database.answer ⟨9, 0⟩ (.ok ()) (.tally ⟨7⟩) d).1 = .ok (t.tally ⟨7⟩) ∧
      (Database.world.answerAll nextQuestion d).1 =
        (Tables.world.answerAll nextQuestion ⟨.empty, answeredOnce⟩).1 := by
  intro d t
  have hd := Database.ofTables_holdsQuiz ⟨0, 0⟩ .empty answeredOnce
  have horder : StoredQuiz.InOrder ⟨7, answeredOnce.questions, 1, [⟨1, ⟨⟨7⟩, ⟨5⟩, "x"⟩, ⟨0, 0⟩⟩]⟩ :=
    ⟨⟨by decide, List.pairwise_singleton _ _⟩, by simp⟩
  obtain ⟨hcalls, hruns⟩ := quiz_stores_agree d _ hd (List.pairwise_singleton _ _)
  obtain ⟨_, _, hinsert, htally⟩ := hcalls t ⟨0, 0⟩ ⟨9, 0⟩ (.ok ()) ⟨.refl _, .refl _⟩
  obtain ⟨hsame, _⟩ := hruns ⟨.empty, answeredOnce⟩ nextQuestion ⟨.refl _, .refl _⟩ rfl
    horder (by decide)
  exact ⟨(hinsert horder.fresh _).1, congrArg Prod.fst (htally ⟨7⟩).1, hsame⟩

end LiveLesson
