import LiveLesson.Proofs.Http.Protocol
import LiveLesson.Proofs.Quiz.Table

/-!
The changes of the quiz that visits ask for. A question is created and an answer is submitted if the
request keeps its rules and meets no failure; then the response is a success, or says that the
question is not known.
-/

namespace LiveLesson

namespace Http

namespace Visit

/-- The question that a visit asks to create, if the request keeps its rules and meets no
failure. -/
def creation? (v : Visit) : Option (CreateQuestion × Timestamp) :=
  match payload CreateQuestion.record CreateQuestion.violations v.request with
  | .error _ => none
  | .ok p =>
    match (v.around (.createQuestion p.toNew)).fault with
    | some _ => none
    | none => some (p, (v.around (.createQuestion p.toNew)).now)

def submission? (v : Visit) : Option SubmitAnswer :=
  match payload SubmitAnswer.record SubmitAnswer.violations v.request with
  | .error _ => none
  | .ok p =>
    match (v.around (.insertAnswer p.toNew)).fault with
    | some _ => none
    | none => some p

def change? (v : Visit) : Option QuizChange :=
  match v.request.endpoint? with
  | some .createQuestion => v.creation?.map fun c => .create c.1 c.2
  | some .submitAnswer => v.submission?.map .submit
  | _ => none

theorem payload_of_creation? {v : Visit} {p : CreateQuestion} {now : Timestamp}
    (h : v.creation? = some (p, now)) :
    payload CreateQuestion.record CreateQuestion.violations v.request = .ok p := by
  unfold creation? at h
  cases hp : payload CreateQuestion.record CreateQuestion.violations v.request with
  | error e => simp [hp] at h
  | ok p' =>
    simp only [hp] at h
    split at h
    · cases h
    · cases h
      rfl

theorem payload_of_submission? {v : Visit} {p : SubmitAnswer} (h : v.submission? = some p) :
    payload SubmitAnswer.record SubmitAnswer.violations v.request = .ok p := by
  unfold submission? at h
  cases hp : payload SubmitAnswer.record SubmitAnswer.violations v.request with
  | error e => simp [hp] at h
  | ok p' =>
    simp only [hp] at h
    split at h
    · cases h
    · cases h
      rfl

theorem change?_eq_create_iff {v : Visit} {p : CreateQuestion} {now : Timestamp} :
    v.change? = some (.create p now) ↔
      v.request.endpoint? = some .createQuestion ∧ v.creation? = some (p, now) := by
  unfold change?
  split
  · next h => simp [h]
  · next h => simp [h]
  · next h _ => exact iff_of_false nofun fun hboth => h hboth.1

theorem change?_eq_submit_iff {v : Visit} {p : SubmitAnswer} :
    v.change? = some (.submit p) ↔ v.request.endpoint? = some .submitAnswer ∧
    v.submission? = some p := by
  unfold change?
  split
  · next h => simp [h]
  · next h => simp [h]
  · next _ h => exact iff_of_false nofun fun hboth => h hboth.1

end Visit

namespace Handlers

open Program

/-- A call that is refused leaves nothing behind but the failure that is told. -/
theorem run_ask_of_refused {σ : Type} {h : Handler σ} {s : σ} {c : Call} {o : c.Outcome}
    (hcall : h c s = (o, s)) {k : c.Outcome → Program Response} {e : ApiError}
    (hrefused : k o = e.answer) :
    ((ask c >>= k).run h s).result.isFailure = true ∧ ((ask c >>= k).run h s).state = s := by
  rw [(run_ask hcall k).1, (run_ask hcall k).2, hrefused]
  exact ⟨e.isFailure_answer h s, (e.run_answer h s).2⟩

theorem createQuestion_run (v : Visit) (t : Tables) :
    let trace := (createQuestion v.request).run (Tables.handler v.around) t
    trace.state.quiz = t.quiz.change (v.creation?.map fun c => .create c.1 c.2) ∧
      (∀ p now, v.creation? = some (p, now) →
        trace.result = created Question.record (t.quiz.created p now)) ∧
      (v.creation? = none → trace.result.isFailure = true) := by
  intro trace
  cases hp : payload CreateQuestion.record CreateQuestion.violations v.request with
  | error e =>
    have hnone : v.creation? = none := by simp only [Visit.creation?, hp]
    have hrefused : trace.result.isFailure = true ∧ trace.state = t := by
      simp only [trace, createQuestion, hp, orAnswer]
      exact ⟨e.isFailure_answer _ t, (e.run_answer _ t).2⟩
    rw [hnone, hrefused.2]
    exact ⟨rfl, by simp, fun _ => hrefused.1⟩
  | ok p =>
    cases hfault : (v.around (.createQuestion p.toNew)).fault with
    | some e =>
      have hnone : v.creation? = none := by simp only [Visit.creation?, hp, hfault]
      have hcall := Tables.handler_of_fault (c := .createQuestion p.toNew) hfault t
      have hrefused : trace.result.isFailure = true ∧ trace.state = t := by
        simp only [trace, createQuestion, hp, orAnswer]
        exact run_ask_of_refused hcall (e := .ofStoreError e) rfl
      rw [hnone, hrefused.2]
      exact ⟨rfl, by simp, fun _ => hrefused.1⟩
    | none =>
      have hsome : v.creation? = some (p, (v.around (.createQuestion p.toNew)).now) := by
        simp only [Visit.creation?, hp, hfault]
      have hcall := Tables.handler_of_no_fault (c := .createQuestion p.toNew) hfault t
      rw [hsome]
      refine ⟨?_, ?_, by simp⟩
      · simp only [trace, createQuestion, hp, orAnswer]
        exact congrArg Tables.quiz (run_ask hcall _).2
      · rintro _ _ ⟨⟩
        simp only [trace, createQuestion, hp, orAnswer]
        exact (run_ask hcall _).1

theorem submitAnswer_run (v : Visit) (t : Tables) :
    let trace := (submitAnswer v.request).run (Tables.handler v.around) t
    trace.state.quiz = t.quiz.change (v.submission?.map .submit) ∧
      (∀ p, v.submission? = some p →
        trace.result.status = if t.quiz.Knows p.toNew.question then 200 else 404) ∧
      (v.submission? = none → trace.result.isFailure = true) := by
  intro trace
  cases hp : payload SubmitAnswer.record SubmitAnswer.violations v.request with
  | error e =>
    have hnone : v.submission? = none := by simp only [Visit.submission?, hp]
    have hrefused : trace.result.isFailure = true ∧ trace.state = t := by
      simp only [trace, submitAnswer, hp, orAnswer]
      exact ⟨e.isFailure_answer _ t, (e.run_answer _ t).2⟩
    rw [hnone, hrefused.2]
    exact ⟨rfl, by simp, fun _ => hrefused.1⟩
  | ok p =>
    cases hfault : (v.around (.insertAnswer p.toNew)).fault with
    | some e =>
      have hnone : v.submission? = none := by simp only [Visit.submission?, hp, hfault]
      have hcall := Tables.handler_of_fault (c := .insertAnswer p.toNew) hfault t
      have hrefused : trace.result.isFailure = true ∧ trace.state = t := by
        simp only [trace, submitAnswer, hp, orAnswer]
        exact run_ask_of_refused hcall (e := .ofStoreError e) rfl
      rw [hnone, hrefused.2]
      exact ⟨rfl, by simp, fun _ => hrefused.1⟩
    | none =>
      have hsome : v.submission? = some p := by simp only [Visit.submission?, hp, hfault]
      have hcall := Tables.handler_of_no_fault (c := .insertAnswer p.toNew) hfault t
      rw [hsome]
      have htrace : trace.state.quiz = t.quiz.change (some (.submit p)) ∧
          trace.result.status = if t.quiz.Knows p.toNew.question then 200 else 404 := by
        simp only [trace, submitAnswer, hp, orAnswer]
        by_cases hknown : t.quiz.Knows p.toNew.question
        · rw [Tables.perform, QuizTable.insertAnswer_of_knows hknown] at hcall
          rw [if_pos hknown, QuizTable.change, QuizTable.insertAnswer_of_knows hknown]
          exact ⟨congrArg Tables.quiz (run_ask hcall _).2,
            congrArg Response.status (run_ask hcall _).1⟩
        · rw [Tables.perform, QuizTable.insertAnswer_of_not_knows hknown] at hcall
          rw [if_neg hknown, QuizTable.change, QuizTable.insertAnswer_of_not_knows hknown]
          exact ⟨congrArg Tables.quiz (run_ask hcall _).2,
            congrArg Response.status (run_ask hcall _).1⟩
      refine ⟨htrace.1, ?_, by simp⟩
      rintro _ ⟨⟩
      exact htrace.2

theorem questionResult_run {around : Call → Tables.Surroundings} {captures : Captures}
    {q : QuestionId} (hq : oneNumber captures = .ok q.value)
    (hstore : (around (.tally q)).fault = none) (t : Tables) :
    ((questionResult captures).run (Tables.handler around) t).result =
      (t.quiz.tally q).elim questionNotFound.response (ok Tally.record) := by
  have hcall := Tables.handler_of_no_fault (c := .tally q) hstore t
  simp only [questionResult, hq, Except.mapError, orAnswer]
  refine (run_ask hcall _).1.trans ?_
  cases t.quiz.tally q <;> rfl

end Handlers

end Http

end LiveLesson
