import LiveLesson.Proofs.Http.Taxonomy
import LiveLesson.Proofs.Quiz.History

/-!
What a pushed question tells. Of the quiz it shows what students may see, and that is the same in
two conversations which differ only in the answers that questions are created with.
-/

namespace LiveLesson

/-- Changes that are the same but for the answer of a created question and the time. -/
inductive QuizChange.SameButAnswer : Option QuizChange → Option QuizChange → Prop
  | same (c : Option QuizChange) : SameButAnswer c c
  | create (p : CreateQuestion) (answer : String) (now now' : Timestamp) :
    SameButAnswer (some (.create p now)) (some (.create { p with answer := answer } now'))

namespace QuizTable

/-- What students may see of the quiz, and which identifier is next. -/
def shown (t : QuizTable) : List QuestionView × Int := (t.questions.map Question.view, t.lastId)

variable {t t' : QuizTable}

theorem shown_create (t : QuizTable) (q : NewQuestion) (now : Timestamp) :
    (t.create q now).2.shown =
      (t.shown.1 ++ [⟨⟨t.shown.2 + 1⟩, q.course, q.type, q.content, q.options⟩],
        t.shown.2 + 1) := by
  simp [shown, create, Question.view]

theorem shown_insertAnswer (t : QuizTable) (a : NewAnswer) :
    (t.insertAnswer a).2.shown = t.shown := by
  obtain ⟨hquestions, hlast⟩ := t.questions_insertAnswer a
  rw [shown, shown, hquestions, hlast]

theorem shown_change (hshown : t'.shown = t.shown) {c c' : Option QuizChange}
    (hc : QuizChange.SameButAnswer c c') : (t'.change c').shown = (t.change c).shown := by
  cases hc with
  | create p answer now now' =>
    simp only [change, shown_create, hshown]
    rfl
  | same c =>
    rcases c with _ | ⟨p, now⟩ | p
    · exact hshown
    · simp only [change, shown_create, hshown]
    · simp only [change, shown_insertAnswer, hshown]

theorem view_findForCourse (t : QuizTable) (course : CourseId) (id : QuestionId) :
    (t.findForCourse course id).map Question.view = t.shown.1.find? fun v => v.id == id &&
    v.course == course := by
  rw [shown, List.find?_map]
  rfl

end QuizTable

namespace Http

open Program

namespace Handlers

def lookedUp (fault : Option StoreError) (found : Option QuestionView) : Response :=
  fault.elim (found.elim questionNotFound.response (ok QuestionView.record)) fun e =>
    (ApiError.ofStoreError e).response

def pushed (around : Call → Tables.Surroundings) (captures : Captures) (shown : List QuestionView) :
    Response :=
  match twoNumbers captures with
  | .error e => (ApiError.ofPathError e).response
  | .ok (course, id) =>
    lookedUp (around (.findQuestion ⟨course⟩ ⟨id⟩)).fault (shown.find? fun v => v.id == ⟨id⟩ &&
      v.course == ⟨course⟩)

theorem pushQuestion_run (around : Call → Tables.Surroundings) (captures : Captures) (t : Tables) :
    ((pushQuestion captures).run (Tables.handler around) t).result =
      pushed around captures t.quiz.shown.1 := by
  unfold pushQuestion pushed
  cases twoNumbers captures with
  | error e => exact ((ApiError.ofPathError e).run_answer _ t).1
  | ok numbers =>
    obtain ⟨course, id⟩ := numbers
    simp only [← QuizTable.view_findForCourse]
    cases hfault : (around (.findQuestion ⟨course⟩ ⟨id⟩)).fault with
    | some e =>
      have hcall := Tables.handler_of_fault (c := .findQuestion ⟨course⟩ ⟨id⟩) hfault t
      exact (run_ask hcall _).1.trans ((ApiError.ofStoreError e).run_answer _ t).1
    | none =>
      have hcall := Tables.handler_of_no_fault (c := .findQuestion ⟨course⟩ ⟨id⟩) hfault t
      refine (run_ask hcall _).1.trans ?_
      cases t.quiz.findForCourse ⟨course⟩ ⟨id⟩ with
      | none => exact (questionNotFound.run_answer _ t).1
      | some question => rfl

end Handlers

theorem App.visit_push_congr (settings : Settings) (doc : Documentation) {v : Visit} {t t' : Tables}
    (hpush : v.request.endpoint? = some .pushQuestion) (hshown : t'.quiz.shown = t.quiz.shown) :
    (visit settings doc v t').result = (visit settings doc v t).result := by
  obtain ⟨captures, hr⟩ := Request.endpoint?_eq_some_iff.1 hpush
  simp only [visit, (serve_run hr (Tables.handler v.around) _).1, atEndpoint,
    Handlers.pushQuestion_run, hshown]

/-- The same visit, or two requests to create a question that differ in their bodies, where these
say the same but for the answer. -/
inductive Visit.SameButAnswer : Visit → Visit → Prop
  | same (v : Visit) : SameButAnswer v v
  | creation {v v' : Visit} (endpoint : v.request.endpoint? = some .createQuestion)
    (request : v'.request = { v.request with body := v'.request.body })
    (body : ∀ p p', CreateQuestion.record.wire.parse v.request.body = .ok p →
      CreateQuestion.record.wire.parse v'.request.body = .ok p' →
      p' = { p with answer := p'.answer }) :
    SameButAnswer v v'

theorem Visit.parse_of_creation? {v : Visit} {p : CreateQuestion} {now : Timestamp}
    (h : v.creation? = some (p, now)) :
    CreateQuestion.record.wire.parse v.request.body = .ok p := by
  obtain ⟨hread, _⟩ := of_payload_eq_ok (payload_of_creation? h)
  exact (of_readBody_eq_ok hread).2.2

variable (settings : Settings) (doc : Documentation)

theorem App.accepted_iff {v : Visit} (hcreate : v.request.endpoint? = some .createQuestion)
    (t : Tables) : (visit settings doc v t).result.status = 201 ↔ v.creation?.isSome = true := by
  obtain ⟨captures, hr⟩ := Request.endpoint?_eq_some_iff.1 hcreate
  obtain ⟨_, hsuccess, hfailure⟩ := Handlers.createQuestion_run v t
  rw [(visit_run settings doc hr t).1, atEndpoint]
  cases hc : v.creation? with
  | none =>
    have hcode := Response.le_status_of_isFailure (hfailure hc)
    refine iff_of_false (fun h => ?_) (by simp)
    rw [h] at hcode
    exact absurd hcode (by decide)
  | some c =>
    refine iff_of_true ?_ rfl
    rw [hsuccess c.1 c.2 hc]
    rfl

theorem App.change_sameButAnswer {v v' : Visit} {t t' : Tables} (h : v.SameButAnswer v')
    (haccepted : v.request.endpoint? = some .createQuestion →
      ((visit settings doc v t).result.status = 201 ↔
        (visit settings doc v' t').result.status = 201)) :
    QuizChange.SameButAnswer v.change? v'.change? := by
  cases h with
  | same => exact .same _
  | creation endpoint request body =>
    have endpoint' : v'.request.endpoint? = some .createQuestion := by
      rw [request]
      exact endpoint
    have hsome := haccepted endpoint
    rw [accepted_iff settings doc endpoint, accepted_iff settings doc endpoint'] at hsome
    simp only [Visit.change?, endpoint, endpoint']
    cases hc : v.creation? with
    | none =>
      cases hc' : v'.creation? with
      | none => exact .same _
      | some c' => simp [hc, hc'] at hsome
    | some c =>
      cases hc' : v'.creation? with
      | none => simp [hc, hc'] at hsome
      | some c' =>
        obtain ⟨p, now⟩ := c
        obtain ⟨p', now'⟩ := c'
        rw [body p p' (Visit.parse_of_creation? hc) (Visit.parse_of_creation? hc')]
        exact .create p p'.answer now now'

/-- If one creates a question, so does the other, and it is accepted in both or in neither. -/
def Answered.AcceptedAlike (a a' : Answered) : Prop :=
  a.visit.request.endpoint? = some .createQuestion →
    (a.response.status = 201 ↔ a'.response.status = 201)

def Answered.PushedAlike (a a' : Answered) : Prop :=
  a.visit.request.endpoint? = some .pushQuestion → a'.response = a.response

theorem App.pushed_alike {visits visits' : List Visit}
    (hsame : List.Forall₂ Visit.SameButAnswer visits visits') {t t' : Tables}
    (hshown : t'.quiz.shown = t.quiz.shown)
    (haccepted : List.Forall₂ Answered.AcceptedAlike (history settings doc t visits)
      (history settings doc t' visits')) :
    List.Forall₂ Answered.PushedAlike (history settings doc t visits)
      (history settings doc t' visits') := by
  induction hsame generalizing t t' with
  | nil => exact .nil
  | @cons v v' rest rest' hv _ ih =>
    obtain ⟨hfirst, hrest⟩ := List.forall₂_cons.1 haccepted
    refine .cons (fun hpush => ?_) (ih ?_ hrest)
    · cases hv with
      | same => exact visit_push_congr settings doc hpush hshown
      | creation endpoint =>
        have hboth := endpoint.symm.trans hpush
        cases hboth
    · rw [quiz_visit, quiz_visit]
      exact QuizTable.shown_change hshown (change_sameButAnswer settings doc hv hfirst)

/-- Whoever has questions pushed learns nothing of their answers. In two conversations from the
empty tables that differ only in the answers with which questions are created, and in which the same
of these requests are accepted, every request for a question gets the same response. -/
theorem answers_withheld (settings : Settings) (doc : Documentation) (visits visits' : List Visit)
    (hsame : List.Forall₂ Visit.SameButAnswer visits visits')
    (haccepted : List.Forall₂ Answered.AcceptedAlike (App.history settings doc .empty visits)
      (App.history settings doc .empty visits')) :
    List.Forall₂ Answered.PushedAlike (App.history settings doc .empty visits)
      (App.history settings doc .empty visits') :=
  App.pushed_alike settings doc hsame rfl haccepted

def shownQuestion (answer : String) : List Visit :=
  [posted "/api/question/create" ("[1,\"short_answer\",\"c\",[],\"" ++ answer ++ "\"]"),
    ⟨⟨"GET", "/api/question/push/1/1", [], []⟩, ⟨"k", "i"⟩, Tables.calm⟩]

/-- Whether the answer is `x` or `y` does not show. -/
theorem shownQuestion_withheld :
    List.Forall₂ Answered.PushedAlike (App.history .standard .null .empty (shownQuestion "x"))
      (App.history .standard .null .empty (shownQuestion "y")) := by
  have hx : CreateQuestion.record.wire.parse (shownQuestion "x")[0].request.body =
      .ok ⟨1, .shortAnswer, "c", [], "x"⟩ := by decide +kernel
  have hy : CreateQuestion.record.wire.parse (shownQuestion "y")[0].request.body =
      .ok ⟨1, .shortAnswer, "c", [], "y"⟩ := by decide +kernel
  refine answers_withheld .standard .null _ _
    (.cons (.creation (by decide +kernel) rfl fun p p' hp hp' => ?_) (.cons (.same _) .nil))
    (.cons (fun _ => by decide +kernel) (.cons (fun hcreate => ?_) .nil))
  · obtain rfl := Except.ok.inj (hx.symm.trans hp)
    obtain rfl := Except.ok.inj (hy.symm.trans hp')
    rfl
  · exact absurd hcreate (by decide +kernel)

end Http

end LiveLesson
