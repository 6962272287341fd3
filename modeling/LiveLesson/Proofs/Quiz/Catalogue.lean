import LiveLesson.Proofs.Quiz.Push
import LiveLesson.Proofs.Quiz.Tally

/-!
Which questions can be pushed after a conversation, and what is shown of them. A question is pushed
to its course exactly if an earlier response told that it was created there, and it is shown as it
was asked for but for blanks around its texts.
-/

namespace LiveLesson

/-- The question that a request asks for, once it has an identifier and a time. -/
def CreateQuestion.asked (p : CreateQuestion) (id : QuestionId) (now : Timestamp) : Question :=
  ⟨id, ⟨p.courseId⟩, p.type, Text.trim p.content, p.options.map Text.trim, Text.trim p.answer, now⟩

/-- How students see the question that a request asks for. Options are left out where there are
none. -/
def CreateQuestion.shown (p : CreateQuestion) (id : QuestionId) : Json :=
  .object ([("id", .integer id.value), ("course_id", .integer p.courseId),
    ("type", .string p.type.text), ("content", .string (Text.trim p.content))] ++
    if p.options = [] then []
      else [("options", .array (p.options.map fun o => .string (Text.trim o)))])

theorem CreateQuestion.encode_view_asked (p : CreateQuestion) (id : QuestionId) (now : Timestamp) :
    QuestionView.record.encode (p.asked id now).view = p.shown id := by
  rcases p with ⟨course, type, content, _ | ⟨o, os⟩, answer⟩
  · rfl
  · have hoptions : (Wire.list Wire.string).encode ((o :: os).map Text.trim) =
        .array ((o :: os).map fun o => .string (Text.trim o)) :=
      congrArg Json.array List.map_map
    exact congrArg (fun options => Json.object [("id", .integer id.value),
      ("course_id", .integer course), ("type", .string type.text),
      ("content", .string (Text.trim content)), ("options", options)]) hoptions

namespace QuizTable

variable {t : QuizTable} {course : CourseId} {id : QuestionId}

theorem created_eq_asked (t : QuizTable) (p : CreateQuestion) (now : Timestamp) :
    t.created p now = p.asked (t.created p now).id now := rfl

theorem WellFormed.findForCourse_eq_some_iff (h : t.WellFormed) {q : Question} :
    t.findForCourse course id = some q ↔ q ∈ t.questions ∧ q.id = id ∧ q.course = course := by
  rw [findForCourse, ← Option.mem_toList, ← filter_eq_find? h.distinct fun _ hq =>
    beq_iff_eq.1 (Bool.and_eq_true_iff.1 hq).1, List.mem_filter, Bool.and_eq_true_iff,
      beq_iff_eq, beq_iff_eq]

end QuizTable

namespace Http

/-- A question is kept as the request asked for it, and was told as it is kept. -/
structure Answered.Stores (a : Answered) (question : Question) (p : CreateQuestion) : Prop where
  created : a.Created question.id p
  asked : ∃ now, question = p.asked question.id now
  told : a.response.body = (Question.record.encode question).text

def Answered.CreateApart (a b : Answered) : Prop :=
  ∀ q p q' p', a.Created q p → b.Created q' p' → q ≠ q'

theorem App.stores_answered {settings : Settings} {doc : Documentation} {v : Visit} {t : Tables}
    {p : CreateQuestion} {now : Timestamp} (hchange : v.change? = some (.create p now)) :
    (answered settings doc v t).Stores (t.quiz.created p now) p where
  created := created_answered_iff.2 ⟨now, hchange, rfl⟩
  asked := ⟨now, t.quiz.created_eq_asked p now⟩
  told := by
    obtain ⟨hendpoint, hc⟩ := Visit.change?_eq_create_iff.1 hchange
    obtain ⟨captures, hr⟩ := Request.endpoint?_eq_some_iff.1 hendpoint
    obtain ⟨_, hbody, _⟩ := visit_run settings doc hr t
    have hresult := (Handlers.createQuestion_run v t).2.1 p now hc
    exact (hbody (congrArg Response.isFailure hresult) (hr.method_ne_head rfl)).trans
      (congrArg Response.body hresult)

/-- The questions that are kept are those that responses told of. -/
structure Catalogued (past : List Answered) (quiz : QuizTable) : Prop where
  wellFormed : quiz.WellFormed
  told : ∀ question ∈ quiz.questions, ∃ a ∈ past, ∃ p, a.Stores question p
  kept : ∀ a ∈ past, ∀ q p, a.Created q p → ∃ question ∈ quiz.questions, question.id = q ∧
    a.Stores question p
  apart : past.Pairwise Answered.CreateApart

namespace Catalogued

variable {past : List Answered} {t : Tables}

theorem begin : Catalogued [] .empty where
  wellFormed := QuizTable.empty_wellFormed
  told := by simp [QuizTable.empty]
  kept := by simp
  apart := .nil

variable (settings : Settings) (doc : Documentation)

theorem step (h : Catalogued past t.quiz) (v : Visit) :
    Catalogued (past ++ [App.answered settings doc v t])
      (App.visit settings doc v t).state.quiz where
  wellFormed := by
    rw [App.quiz_visit]
    exact h.wellFormed.change v.change?
  told := by
    rw [App.quiz_visit]
    intro question hquestion
    rcases QuizTable.created_of_mem_questions_change hquestion with hquestion | ⟨p, now,
      hchange, rfl⟩
    · obtain ⟨a, ha, htold⟩ := h.told question hquestion
      exact ⟨a, List.mem_append_left _ ha, htold⟩
    · exact ⟨_, List.mem_append_right _ (List.mem_singleton_self _), p, App.stores_answered hchange⟩
  kept := by
    rw [App.quiz_visit]
    intro a ha q p hp
    rcases List.mem_append.1 ha with ha | ha
    · obtain ⟨question, hquestion, hkept⟩ := h.kept a ha q p hp
      exact ⟨question, QuizTable.mem_questions_change hquestion _, hkept⟩
    · obtain rfl := List.mem_singleton.1 ha
      obtain ⟨now, hchange, hid⟩ := App.created_answered_iff.1 hp
      refine ⟨t.quiz.created p now, ?_, hid, App.stores_answered hchange⟩
      rw [hchange]
      exact List.mem_append_right _ (List.mem_singleton_self _)
  apart := by
    refine List.pairwise_append.2 ⟨h.apart, List.pairwise_singleton _ _, fun a ha b hb => ?_⟩
    obtain rfl := List.mem_singleton.1 hb
    rintro q p q' p' hp hp' rfl
    -- What was told before is known, and an identifier that is known is not given out.
    obtain ⟨question, hquestion, hid, _⟩ := h.kept a ha q p hp
    obtain ⟨now, _, hnew⟩ := App.created_answered_iff.1 hp'
    exact h.wellFormed.not_knows_created p' now ⟨question, hquestion, hid.trans hnew.symm⟩

theorem run (h : Catalogued past t.quiz) (visits : List Visit) :
    Catalogued (past ++ App.history settings doc t visits)
      (App.converse settings doc t visits).2.quiz :=
  App.history_induction settings doc (I := fun past t => Catalogued past t.quiz)
    (fun v hcatalogued => hcatalogued.step settings doc v) h visits

variable {course : CourseId} {q : QuestionId}

theorem findForCourse_of_created (h : Catalogued past t.quiz) {a : Answered} (ha : a ∈ past)
    {p : CreateQuestion} (hp : a.Created q p) (hcourse : p.courseId = course.value) :
    ∃ now, t.quiz.findForCourse course q = some (p.asked q now) := by
  obtain ⟨question, hquestion, rfl, hstores⟩ := h.kept a ha q p hp
  obtain ⟨now, hasked⟩ := hstores.asked
  have hsame : question.course = course := by
    rw [hasked]
    exact congrArg Id.mk hcourse
  exact ⟨now, hasked ▸ h.wellFormed.findForCourse_eq_some_iff.2 ⟨hquestion, rfl, hsame⟩⟩

/-- A question is found for a course exactly if a response told that it was created there. -/
theorem isSome_findForCourse_iff (h : Catalogued past t.quiz) :
    (t.quiz.findForCourse course q).isSome = true ↔ ∃ a ∈ past, ∃ p, a.Created q p ∧
    p.courseId = course.value := by
  constructor
  · intro hfound
    obtain ⟨question, hsome⟩ := Option.isSome_iff_exists.1 hfound
    obtain ⟨hquestion, rfl, rfl⟩ := h.wellFormed.findForCourse_eq_some_iff.1 hsome
    obtain ⟨a, ha, p, hstores⟩ := h.told question hquestion
    obtain ⟨now, hasked⟩ := hstores.asked
    exact ⟨a, ha, p, hstores.created, congrArg (fun question => question.course.value) hasked.symm⟩
  · rintro ⟨a, ha, p, hp, hcourse⟩
    obtain ⟨now, hfound⟩ := h.findForCourse_of_created ha hp hcourse
    rw [hfound]
    rfl

end Catalogued

namespace App

variable (settings : Settings) (doc : Documentation) {v : Visit} {captures : Captures}
  {course : CourseId}
  {q : QuestionId} (hr : v.request.Reaches .pushQuestion captures)
  (hq : twoNumbers captures = .ok (course.value, q.value))
  (hstore : (v.around (.findQuestion course q)).fault = none)
  (t : Tables)

include hr hq hstore

theorem visit_pushQuestion : (visit settings doc v t).result = finish settings v.fresh v.request
    (FailureLog.passed (Handlers.lookedUp none
      ((t.quiz.findForCourse course q).map Question.view))) := by
  have hpushed : Handlers.pushed v.around captures t.quiz.shown.1 =
      Handlers.lookedUp none ((t.quiz.findForCourse course q).map Question.view) := by
    rw [Handlers.pushed, hq, QuizTable.view_findForCourse, ← hstore]
  rw [visit, (serve_run hr (Tables.handler v.around) t).1, atEndpoint,
    Handlers.pushQuestion_run, hpushed]

theorem status_pushQuestion : (visit settings doc v t).result.status =
    if (t.quiz.findForCourse course q).isSome then 200 else 404 := by
  rw [visit_pushQuestion settings doc hr hq hstore, status_finish, FailureLog.status_passed]
  cases t.quiz.findForCourse course q <;> rfl

theorem body_pushQuestion {question : Question}
    (hfound : t.quiz.findForCourse course q = some question) (hmethod : v.request.method ≠ "HEAD") :
    (visit settings doc v t).result.body = (QuestionView.record.encode question.view).text := by
  rw [visit_pushQuestion settings doc hr hq hstore, hfound, FailureLog.passed_of_success rfl,
    body_finish, if_neg hmethod]
  rfl

end App

/-- In any conversation from the empty tables, whatever its requests and whatever failures they
meet, no identifier is given to two questions, and a question is pushed as the responses before it
require. It is shown exactly if a response told that it was created, under this identifier and for
this course; then it is shown with the identifier and the course and with the type, the content and
the options that it was created with, up to blanks around the texts. Otherwise it is not found. What
was told of it when it was created is what was asked for as well. -/
theorem push_tells_history (settings : Settings) (doc : Documentation)
    (visits : List Visit) (v : Visit) (captures : Captures) (course : CourseId) (q : QuestionId)
    (hr : v.request.Reaches .pushQuestion captures)
    (hq : twoNumbers captures = .ok (course.value, q.value))
    (hstore : (v.around (.findQuestion course q)).fault = none) :
    let past := App.history settings doc .empty visits
    let response := (App.answerAfter settings doc visits v).response
    past.Pairwise Answered.CreateApart ∧
    (response.status = 200 ↔ ∃ a ∈ past, ∃ p, a.Created q p ∧ p.courseId = course.value) ∧
    (response.status ≠ 200 → response.status = 404) ∧
    ∀ a ∈ past, ∀ p, a.Created q p →
      (∃ now, a.response.body = (Question.record.encode (p.asked q now)).text) ∧
      (p.courseId = course.value → v.request.method ≠ "HEAD" →
        response.body = (p.shown q).text) := by
  intro past response
  have hcatalogued : Catalogued past (App.converse settings doc .empty visits).2.quiz := by
    have hrun := Catalogued.run (t := .empty) settings doc Catalogued.begin visits
    rwa [List.nil_append] at hrun
  have hstatus :=
    App.status_pushQuestion settings doc hr hq hstore (App.converse settings doc .empty visits).2
  refine ⟨hcatalogued.apart, ?_, fun hmissing => ?_,
    fun a ha p hp => ⟨?_, fun hcourse hmethod => ?_⟩⟩
  · rw [← hcatalogued.isSome_findForCourse_iff]
    refine (Eq.congr_left hstatus).trans ⟨fun h => by_contra fun hmissing => ?_,
      fun hfound => if_pos hfound⟩
    rw [if_neg hmissing] at h
    cases h
  · refine hstatus.trans (if_neg fun hfound => hmissing (hstatus.trans (if_pos hfound)))
  · obtain ⟨question, _, rfl, hstores⟩ := hcatalogued.kept a ha q p hp
    obtain ⟨now, hasked⟩ := hstores.asked
    exact ⟨now, hstores.told.trans (by rw [← hasked])⟩
  · obtain ⟨now, hfound⟩ := hcatalogued.findForCourse_of_created ha hp hcourse
    rw [← p.encode_view_asked q now]
    exact App.body_pushQuestion settings doc hr hq hstore _ hfound hmethod

def twoCourses : List Visit :=
  [posted "/api/question/create" "[1,\"short_answer\",\"c\",[],\"x\"]",
    posted "/api/question/create" "[2,\"single_choice\",\" d \",[\" x \",\"y\"],\"x\"]",
    posted "/api/question/submit" "[2,1,\"x\"]", posted "/api/question/create" "[0]"]

def pushAsked (target : String) : Visit := ⟨⟨"GET", target, [], []⟩, ⟨"k", "i"⟩, Tables.calm⟩

/-- The second question is shown to its own course. -/
theorem twoCourses_push : (App.answerAfter .standard .null twoCourses
    (pushAsked "/api/question/push/2/2")).response.body = (CreateQuestion.shown
      ⟨2, .singleChoice, " d ", [" x ", "y"], "x"⟩ ⟨2⟩).text := by
  have hr : (pushAsked "/api/question/push/2/2").request.Reaches .pushQuestion
      [("course_id", ['2']), ("question_id", ['2'])] := ⟨by decide +kernel, by decide⟩
  obtain ⟨_, _, _, hshown⟩ :=
    push_tells_history .standard .null twoCourses _ _ ⟨2⟩ ⟨2⟩ hr (by decide +kernel) rfl
  have hsecond := App.getElem?_history .standard .null .empty (by decide : 1 < twoCourses.length)
  have hcreated : (App.answered .standard .null twoCourses[1]
      (App.converse .standard .null .empty (twoCourses.take 1)).2).Created ⟨2⟩
        ⟨2, .singleChoice, " d ", [" x ", "y"], "x"⟩ :=
    App.created_answered_iff.2 ⟨⟨0, 0⟩,
      Visit.change?_eq_create_iff.2 ⟨by decide +kernel, by decide +kernel⟩, by decide +kernel⟩
  exact (hshown _ (List.mem_of_getElem? hsecond) _ hcreated).2 rfl (by decide)

end Http

end LiveLesson
