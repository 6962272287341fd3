import LiveLesson.Proofs.Quiz.Normal
import LiveLesson.Proofs.Store.Reachable

/-!
Every question that was accepted can be answered correctly. The text that it was created with as its
answer keeps the rules for answers, whatever blanks are around it, and counts as a correct answer at
any later moment.
-/

namespace LiveLesson

namespace QuizTable

variable {t : QuizTable} {q : Question}

/-- Numbers are given out from one on, each of them once. -/
structure IsNumbered (t : QuizTable) : Prop where
  wellFormed : t.WellFormed
  lastId : 0 ≤ t.lastId

theorem isNumbered_of_leads {u : Tables} (h : Tables.empty.Leads u) : u.quiz.IsNumbered :=
  h.quiz_induction (P := IsNumbered)
    (fun _ q now hu => ⟨hu.wellFormed.create q now,
      Int.le_trans hu.lastId (Int.le_add_of_nonneg_right (by decide))⟩)
    (fun u a hu => ⟨hu.wellFormed.insertAnswer a, (u.questions_insertAnswer a).2 ▸ hu.lastId⟩)
    ⟨empty_wellFormed, Int.le_refl 0⟩

theorem mem_questions_of_leads {t u : Tables} (h : t.Leads u) (hq : q ∈ t.quiz.questions) :
    q ∈ u.quiz.questions :=
  h.quiz_induction (P := fun u => q ∈ u.questions) (fun _ _ _ hu => List.mem_append_left _ hu)
    (fun u a hu => (u.questions_insertAnswer a).1 ▸ hu) hq

theorem WellFormed.tally_submit_right (h : t.WellFormed) (hq : q ∈ t.questions) {s : SubmitAnswer}
    (hid : s.toNew.question = q.id) (hright : s.toNew.answer = q.answer) :
    ∃ total correct, t.tally q.id = some ⟨q.id, total, correct⟩ ∧
      (t.change (some (.submit s))).tally q.id = some ⟨q.id, total + 1, correct + 1⟩ := by
  refine ⟨_, _, h.tally_eq hq, ?_⟩
  have hsubmitted : submitted q.id (some (.submit s)) = some s := submitted_eq_some_iff.2 ⟨rfl, hid⟩
  rw [(h.change _).tally_eq (mem_questions_change hq _),
    answersTo_change_of_knows ⟨q, hq, rfl⟩, hsubmitted]
  simp [List.countP_append, hright]

theorem WellFormed.tally_submit_other (h : t.WellFormed) {s : SubmitAnswer} {other : QuestionId}
    (hother : s.toNew.question ≠ other) :
    (t.change (some (.submit s))).tally other = t.tally other :=
  h.tally_change nofun fun _ hs hid => absurd hid (by cases hs; exact hother)

end QuizTable

theorem Tables.eq_of_answer_createQuestion {t t' : Tables} {around : Surroundings} {n : NewQuestion}
    {q : Question} (h : answer around (.createQuestion n) t = (.ok q, t')) :
    q = (t.quiz.create n around.now).1 ∧ t'.quiz = (t.quiz.create n around.now).2 := by
  unfold answer at h
  split at h
  · cases h
  · obtain ⟨hq, rfl⟩ := Prod.mk.inj h
    exact ⟨(Except.ok.inj hq).symm, rfl⟩

/-- What was accepted as the answer of a question is accepted as an answer to it. -/
theorem SubmitAnswer.violations_of_same_answer {p : CreateQuestion} (hp : p.violations = [])
    {s : SubmitAnswer} (hquestion : 1 ≤ s.questionId) (hstudent : 1 ≤ s.studentId)
    (hlength : s.answer.toList.length ≤ 1000) (hsame : Text.trim s.answer = Text.trim p.answer) :
    s.violations = [] := by
  have haccepted := (CreateQuestion.violations_eq_nil_iff_isAcceptable p).1 hp
  refine violations_eq_nil_iff.2 ⟨⟨hlength, Text.trim_ne_empty_iff.1 ?_⟩, hquestion, hstudent⟩
  rw [hsame]
  exact Text.trim_ne_empty_iff.2 haccepted.answer.2

namespace Http

theorem payload_of_readBody {α : Type} {record : Record α} {violations : α → List Violation}
    {r : Request} {p : α} (hread : readBody record.wire r = .ok p) (hrules : violations p = []) :
    payload record violations r = .ok p := by
  simp only [payload, hread, hrules]

/-- Every question that is accepted can be answered correctly. Whatever is done once it is stored,
its answer may be submitted by any student as the text that was accepted, or as this text with other
blanks around it that is not too long. The submission keeps the rules and is answered with a
success, and both numbers of the question's tally go up by one; the tallies of all other questions
stay the same. -/
theorem accepted_question_answerable (settings : Settings) (doc : Documentation) {t₀ t₁ t : Tables}
    (hbefore : Tables.empty.Leads t₀) {p : CreateQuestion} (hp : p.violations = [])
    {around : Tables.Surroundings} {q : Question}
    (hstored : Tables.answer around (.createQuestion p.toNew) t₀ = (.ok q, t₁))
    (hlater : t₁.Leads t) {s : SubmitAnswer} (hquestion : s.questionId = q.id.value)
    (hstudent : 1 ≤ s.studentId) (hanswer : s.answer = p.answer ∨ s.answer.toList.length ≤ 1000 ∧
      ∃ core, Text.IsPadded core p.answer.toList ∧ Text.IsPadded core s.answer.toList) :
    s.violations = [] ∧
    ∀ v : Visit, v.request.endpoint? = some .submitAnswer →
    readBody SubmitAnswer.record.wire v.request = .ok s →
      (v.around (.insertAnswer s.toNew)).fault = none →
      let trace := App.visit settings doc v t
      trace.result.status = 200 ∧
      (∃ total correct, t.quiz.tally q.id = some ⟨q.id, total, correct⟩ ∧
        trace.state.quiz.tally q.id = some ⟨q.id, total + 1, correct + 1⟩) ∧
      ∀ other, other ≠ q.id → trace.state.quiz.tally other = t.quiz.tally other := by
  obtain ⟨rfl, htable⟩ := Tables.eq_of_answer_createQuestion hstored
  have hnumbered : t₀.quiz.IsNumbered := QuizTable.isNumbered_of_leads hbefore
  have hwf : t.quiz.WellFormed :=
    (QuizTable.isNumbered_of_leads
      (hbefore.trans ((Tables.Leads.of_answer_eq hstored).trans hlater))).wellFormed
  have hkept : (t₀.quiz.create p.toNew around.now).1 ∈ t.quiz.questions :=
    QuizTable.mem_questions_of_leads hlater
      (htable ▸ List.mem_append_right _ (List.mem_singleton_self _))
  have hpositive : 1 ≤ s.questionId := by
    rw [hquestion]
    exact Int.add_le_add_right hnumbered.lastId 1
  have haccepted := (CreateQuestion.violations_eq_nil_iff_isAcceptable p).1 hp
  have htext : s.answer.toList.length ≤ 1000 ∧ Text.trim s.answer = Text.trim p.answer := by
    rcases hanswer with hverbatim | ⟨hlength, core, hp, hs⟩
    · exact ⟨hverbatim ▸ haccepted.answer.1, congrArg Text.trim hverbatim⟩
    · exact ⟨hlength, Text.trim_eq_trim_iff.2 (hs.trimChars_eq.trans hp.trimChars_eq.symm)⟩
  have hrules : s.violations = [] :=
    SubmitAnswer.violations_of_same_answer hp hpositive hstudent htext.1 htext.2
  refine ⟨hrules, fun v hendpoint hread hstore => ?_⟩
  have hid : s.toNew.question = (t₀.quiz.create p.toNew around.now).1.id := congrArg Id.mk hquestion
  have hsubmission : v.submission? = some s := by
    simp only [Visit.submission?, payload_of_readBody hread hrules, hstore]
  have hchange : v.change? = some (.submit s) :=
    Visit.change?_eq_submit_iff.2 ⟨hendpoint, hsubmission⟩
  obtain ⟨captures, hr⟩ := Request.endpoint?_eq_some_iff.1 hendpoint
  have hknown : t.quiz.Knows s.toNew.question := ⟨_, hkept, hid.symm⟩
  have hstatus := ((Handlers.submitAnswer_run v t).2.1 s hsubmission).trans (if_pos hknown)
  intro trace
  have hquiz : trace.state.quiz = t.quiz.change (some (.submit s)) :=
    hchange ▸ App.quiz_visit settings doc v t
  rw [hquiz]
  exact ⟨(App.visit_run settings doc hr t).1.trans hstatus,
    hwf.tally_submit_right hkept hid htext.2,
    fun other hother => hwf.tally_submit_other (hid.trans_ne hother.symm)⟩

/-- A second question is answered with other blanks than it was created with, after an answer to the
first one. -/
theorem second_question_answered :
    let created : CreateQuestion := ⟨1, .shortAnswer, "c", [], " x"⟩
    let t₀ := (Tables.answer (Tables.calm .checkDatabase) (.createQuestion created.toNew) .empty).2
    let t₁ := (Tables.answer (Tables.calm .checkDatabase) (.createQuestion created.toNew) t₀).2
    let t := (Tables.answer (Tables.calm .checkDatabase) (.insertAnswer ⟨⟨1⟩, ⟨1⟩, "y"⟩) t₁).2
    let v := posted "/api/question/submit" "[2,7,\"x\\n\"]"
    (App.visit .standard .null v t).result.status = 200 ∧
      (App.visit .standard .null v t).state.quiz.tally ⟨2⟩ = some ⟨⟨2⟩, 1, 1⟩ ∧
      (App.visit .standard .null v t).state.quiz.tally ⟨1⟩ = t.quiz.tally ⟨1⟩ := by
  intro created t₀ t₁ t v
  have hread : readBody SubmitAnswer.record.wire v.request = .ok ⟨2, 7, "x\n"⟩ := by decide +kernel
  have hpadded : ∃ core, Text.IsPadded core " x".toList ∧ Text.IsPadded core "x\n".toList :=
    ⟨['x'], ⟨[' '], [], rfl, by simp [Text.isBlank], by simp⟩,
      ⟨[], ['\n'], rfl, by simp, by simp [Text.isBlank]⟩⟩
  have hid : (t₀.quiz.create created.toNew ⟨0, 0⟩).1.id = ⟨2⟩ := by decide +kernel
  have hstored : Tables.answer (Tables.calm .checkDatabase) (.createQuestion created.toNew) t₀ =
      (.ok (t₀.quiz.create created.toNew ⟨0, 0⟩).1, t₁) := rfl
  have hbefore : Tables.empty.Leads t₀ := .call _ _ .here
  have hlater : t₁.Leads t := .call _ _ .here
  have hnone : t.quiz.tally ⟨2⟩ = some ⟨⟨2⟩, 0, 0⟩ := by decide +kernel
  obtain ⟨-, hanswered⟩ := accepted_question_answerable .standard .null hbefore (p := created)
    (by decide +kernel)
    hstored hlater (s := ⟨2, 7, "x\n"⟩) (congrArg Id.value hid).symm (by decide)
      (.inr ⟨by decide, hpadded⟩)
  obtain ⟨hstatus, ⟨total, correct, hfirst, hafter⟩, hothers⟩ :=
    hanswered v (by decide +kernel) hread rfl
  rw [hid] at hfirst hafter
  rw [hnone, Option.some.injEq, Tally.mk.injEq] at hfirst
  rw [← hfirst.2.1, ← hfirst.2.2] at hafter
  have hother : (⟨1⟩ : QuestionId) ≠ (t₀.quiz.create created.toNew ⟨0, 0⟩).1.id := by
    rw [hid]
    decide
  exact ⟨hstatus, hafter, hothers ⟨1⟩ hother⟩

end Http

end LiveLesson
