import LiveLesson.Proofs.Json.Text
import LiveLesson.Proofs.Quiz.Changes
import LiveLesson.Proofs.Quiz.Untouched

/-!
What a visit does to the quiz and how it is answered. The response to a visit tells whether the
change that it asks for was made.
-/

namespace LiveLesson.Http

structure Answered where
  visit : Visit
  response : Response

namespace Answered

/-- A question was created as asked, and its identifier was told. -/
structure Created (a : Answered) (q : QuestionId) (p : CreateQuestion) : Prop where
  endpoint : a.visit.request.endpoint? = some .createQuestion
  payload : payload CreateQuestion.record CreateQuestion.violations a.visit.request = .ok p
  status : a.response.status = 201
  body : ∃ question : Question, question.id = q ∧
    a.response.body = (Question.record.encode question).text

def accepted? (q : QuestionId) (a : Answered) : Option SubmitAnswer :=
  match payload SubmitAnswer.record SubmitAnswer.violations a.visit.request with
  | .ok p =>
    if a.visit.request.endpoint? = some .submitAnswer ∧ p.questionId = q.value ∧
      a.response.status = 200 then some p
    else none
  | .error _ => none

theorem accepted?_eq_some_iff {q : QuestionId} {a : Answered} {p : SubmitAnswer} :
    a.accepted? q = some p ↔ payload SubmitAnswer.record SubmitAnswer.violations
      a.visit.request = .ok p ∧
      a.visit.request.endpoint? = some .submitAnswer ∧ p.questionId = q.value ∧
      a.response.status = 200 := by
  unfold accepted?
  cases payload SubmitAnswer.record SubmitAnswer.violations a.visit.request with
  | error e => simp
  | ok p' =>
    rw [Option.ite_none_right_eq_some, Except.ok.injEq, Option.some_inj]
    constructor
    · rintro ⟨⟨hendpoint, hquestion, hstatus⟩, rfl⟩
      exact ⟨rfl, hendpoint, hquestion, hstatus⟩
    · rintro ⟨rfl, hendpoint, hquestion, hstatus⟩
      exact ⟨⟨hendpoint, hquestion, hstatus⟩, rfl⟩

end Answered

theorem eq_id_of_text {q r : Question}
    (h : (Question.record.encode q).text = (Question.record.encode r).text) : q.id = r.id :=
  congrArg Id.mk (Json.eq_of_text_first_integer h)

namespace App

variable (settings : Settings) (doc : Documentation)

def answered (v : Visit) (t : Tables) : Answered := ⟨v, (visit settings doc v t).result⟩

theorem quiz_visit (v : Visit) (t : Tables) :
    (visit settings doc v t).state.quiz = t.quiz.change v.change? := by
  cases he : v.request.endpoint? with
  | none =>
    have hr : ∀ e captures, ¬ v.request.Reaches e captures := by
      intro e captures hr
      rw [hr.endpoint?] at he
      cases he
    have hnone : v.change? = none := by simp only [Visit.change?, he]
    rw [hnone, visit, serve_run_of_not_reaches hr]
    rfl
  | some e =>
    obtain ⟨captures, hr⟩ := Request.endpoint?_eq_some_iff.1 he
    rw [(visit_run settings doc hr t).2.2]
    by_cases hcreate : e = .createQuestion
    · subst hcreate
      have hchange : v.change? =
          v.creation?.map fun c => .create c.1 c.2 := by simp only [Visit.change?, he]
      rw [hchange]
      exact (Handlers.createQuestion_run v t).1
    · by_cases hsubmit : e = .submitAnswer
      · subst hsubmit
        have hchange : v.change? = v.submission?.map .submit := by simp only [Visit.change?, he]
        rw [hchange]
        exact (Handlers.submitAnswer_run v t).1
      · have hnone : v.change? = none := by
          unfold Visit.change?
          rw [he]
          split
          · next h => exact absurd (Option.some.inj h) hcreate
          · next h => exact absurd (Option.some.inj h) hsubmit
          · rfl
        rw [hnone]
        exact atEndpoint_run_quiz settings doc _ _ _ hcreate hsubmit v.around t

variable {settings : Settings} {doc : Documentation} {v : Visit} {t : Tables} {q : QuestionId}

/-- The response tells that a question was created, and under which identifier. -/
theorem created_answered_iff {p : CreateQuestion} :
    (answered settings doc v t).Created q p ↔
      ∃ now, v.change? = some (.create p now) ∧ (t.quiz.created p now).id = q := by
  obtain ⟨_, hsuccess, hfailure⟩ := Handlers.createQuestion_run v t
  constructor
  · intro h
    obtain ⟨captures, hr⟩ := Request.endpoint?_eq_some_iff.1 h.endpoint
    obtain ⟨hstatus, hbody, _⟩ := visit_run settings doc hr t
    cases hc : v.creation? with
    | none =>
      have hcode : 400 ≤ (answered settings doc v t).response.status :=
        hstatus ▸ Response.le_status_of_isFailure (hfailure hc)
      rw [h.status] at hcode
      exact absurd hcode (by decide)
    | some c =>
      obtain ⟨p', now⟩ := c
      obtain rfl : p = p' := Except.ok.inj (h.payload.symm.trans (Visit.payload_of_creation? hc))
      refine ⟨now, Visit.change?_eq_create_iff.2 ⟨h.endpoint, hc⟩, ?_⟩
      obtain ⟨question, rfl, htext⟩ := h.body
      -- What was told is read off the body, where the identifier comes first.
      have hresult := hsuccess p now hc
      have htold := hbody (congrArg Response.isFailure hresult) (hr.method_ne_head rfl)
      exact eq_id_of_text ((congrArg Response.body hresult).symm.trans (htold.symm.trans htext))
  · rintro ⟨now, hchange, rfl⟩
    obtain ⟨hendpoint, hc⟩ := Visit.change?_eq_create_iff.1 hchange
    obtain ⟨captures, hr⟩ := Request.endpoint?_eq_some_iff.1 hendpoint
    obtain ⟨hstatus, hbody, _⟩ := visit_run settings doc hr t
    have hresult := hsuccess p now hc
    refine ⟨hendpoint, Visit.payload_of_creation? hc,
      hstatus.trans (congrArg Response.status hresult), _, rfl, ?_⟩
    exact (hbody (congrArg Response.isFailure hresult) (hr.method_ne_head rfl)).trans
      (congrArg Response.body hresult)

theorem accepted?_answered_iff {p : SubmitAnswer} :
    (answered settings doc v t).accepted? q = some p ↔
      v.change? = some (.submit p) ∧ p.toNew.question = q ∧ t.quiz.Knows q := by
  obtain ⟨_, hsuccess, hfailure⟩ := Handlers.submitAnswer_run v t
  rw [Answered.accepted?_eq_some_iff, Visit.change?_eq_submit_iff]
  constructor
  · rintro ⟨hpayload, hendpoint, hquestion, hcode⟩
    obtain ⟨captures, hr⟩ := Request.endpoint?_eq_some_iff.1 hendpoint
    obtain ⟨hstatus, _, _⟩ := visit_run settings doc hr t
    have hid : p.toNew.question = q := congrArg Id.mk hquestion
    cases hs : v.submission? with
    | none =>
      have hcode' : 400 ≤ (answered settings doc v t).response.status :=
        hstatus ▸ Response.le_status_of_isFailure (hfailure hs)
      rw [hcode] at hcode'
      exact absurd hcode' (by decide)
    | some p' =>
      obtain rfl : p = p' := Except.ok.inj (hpayload.symm.trans (Visit.payload_of_submission? hs))
      refine ⟨⟨hendpoint, rfl⟩, hid, ?_⟩
      by_contra hunknown
      have hrefused := hstatus.trans (hsuccess p hs)
      rw [hid, if_neg hunknown] at hrefused
      exact absurd (hcode.symm.trans hrefused) (by decide)
  · rintro ⟨⟨hendpoint, hs⟩, rfl, hknown⟩
    obtain ⟨captures, hr⟩ := Request.endpoint?_eq_some_iff.1 hendpoint
    obtain ⟨hstatus, _, _⟩ := visit_run settings doc hr t
    refine ⟨Visit.payload_of_submission? hs, hendpoint, rfl, ?_⟩
    exact hstatus.trans ((hsuccess p hs).trans (if_pos hknown))

end App

end LiveLesson.Http
