import LiveLesson.Proofs.Quiz.History
import Mathlib.Data.List.FinRange
import Mathlib.Order.WellFounded

/-!
What the result of a question tells of a conversation. It counts the accepted answers to the
question and those among them that are its answer; nothing else in the conversation changes it, nor
does the order of the accepted answers.
-/

namespace LiveLesson.Http

namespace App

variable (settings : Settings) (doc : Documentation)

/-- What a visit is answered after a conversation that began with empty tables. -/
def answerAfter (visits : List Visit) (v : Visit) : Answered :=
  answered settings doc v (converse settings doc .empty visits).2

theorem getElem?_history (t : Tables) {visits : List Visit} {m : Nat} (hm : m < visits.length) :
    (history settings doc t visits)[m]? =
      some (answered settings doc visits[m] (converse settings doc t (visits.take m)).2) := by
  induction visits generalizing t m with
  | nil => cases hm
  | cons v rest ih =>
    cases m with
    | zero => rfl
    | succ m => exact ih _ (Nat.lt_of_succ_lt_succ hm)

variable {v : Visit} {captures : Captures} {q : QuestionId}
  (hr : v.request.Reaches .questionResult captures)
  (hq : oneNumber captures = .ok q.value) (hstore : (v.around (.tally q)).fault = none) (t : Tables)

include hr hq hstore

theorem answered_questionResult :
    answered settings doc v t = ⟨v, finish settings v.fresh v.request (FailureLog.passed
      ((t.quiz.tally q).elim Handlers.questionNotFound.response (Handlers.ok Tally.record)))⟩ := by
  rw [answered, visit, (serve_run hr (Tables.handler v.around) t).1, atEndpoint,
    Handlers.questionResult_run hq hstore t]

theorem answered_of_tally_eq {t' : Tables} (h : t'.quiz.tally q = t.quiz.tally q) :
    answered settings doc v t' = answered settings doc v t := by
  rw [answered_questionResult settings doc hr hq hstore,
    answered_questionResult settings doc hr hq hstore, h]

theorem status_questionResult_of_not_knows (h : ¬ t.quiz.Knows q) :
    (answered settings doc v t).response.status = 404 := by
  rw [answered_questionResult settings doc hr hq hstore, QuizTable.tally_eq_none_iff.2 h]
  exact (status_finish _).trans (FailureLog.status_passed _)

theorem questionResult_of_tally {tally : Tally} (h : t.quiz.tally q = some tally) :
    (answered settings doc v t).response.status = 200 ∧
      (v.request.method ≠ "HEAD" →
        (answered settings doc v t).response.body = (Tally.record.encode tally).text) := by
  rw [answered_questionResult settings doc hr hq hstore, h, Option.elim_some,
    FailureLog.passed_of_success rfl]
  exact ⟨status_finish _, fun hmethod => (body_finish _).trans (if_neg hmethod)⟩

end App

section Order

variable {α : Type} (l : List α) (σ : Equiv.Perm (Fin l.length))

theorem take_reordered {m : Nat} (hfix : ∀ i : Fin l.length, i.val < m → σ i = i) :
    (List.ofFn fun i => l[σ i]).take m = l.take m := by
  refine List.ext_getElem (by simp) fun i hi hi' => ?_
  have hlt : i < m := by
    rw [List.length_take] at hi'
    omega
  have hlength : i < l.length := by
    rw [List.length_take] at hi'
    omega
  have hsame := hfix ⟨i, hlength⟩ hlt
  simp only [List.getElem_take, List.getElem_ofFn, hsame]
  rfl

theorem drop_reordered {m : Nat} (hfix : ∀ i : Fin l.length, i.val < m → σ i = i) :
    ((List.ofFn fun i => l[σ i]).drop m).Perm (l.drop m) := by
  have hperm : (List.ofFn fun i => l[σ i]).Perm l := by
    have hcomp := σ.ofFn_comp_perm l.get
    rwa [List.ofFn_get] at hcomp
  rw [← List.take_append_drop m (List.ofFn fun i => l[σ i]), take_reordered l σ hfix] at hperm
  have hsplit : (l.take m ++ (List.ofFn fun i => l[σ i]).drop m).Perm (l.take m ++ l.drop m) := by
    rwa [List.take_append_drop]
  exact (List.perm_append_left_iff _).1 hsplit

theorem exists_first_moved (hmoved : ∃ i, σ i ≠ i) :
    ∃ m : Fin l.length, σ m ≠ m ∧ ∀ i : Fin l.length, i.val < m → σ i = i := by
  obtain ⟨m, hm, hmin⟩ := wellFounded_lt.has_min {i | σ i ≠ i} hmoved
  exact ⟨m, hm, fun i hlt => by_contra fun hi => hmin i hi hlt⟩

end Order

theorem tally_reordered (settings : Settings) (doc : Documentation) (visits : List Visit)
    (q : QuestionId) (σ : Equiv.Perm (Fin visits.length))
    (hσ : ∀ i, σ i ≠ i →
      ((App.history settings doc .empty visits)[i.val]?.bind (Answered.accepted? q)).isSome) :
    (App.converse settings doc .empty (List.ofFn fun i => visits[σ i])).2.quiz.tally q =
      (App.converse settings doc .empty visits).2.quiz.tally q := by
  by_cases hmoved : ∃ i, σ i ≠ i
  · -- Up to the first position that is moved both conversations are the same, and what stands there
    -- was accepted, so the question is known from there on.
    obtain ⟨m, hm, hfix⟩ := exists_first_moved visits σ hmoved
    obtain ⟨p, hp⟩ := Option.isSome_iff_exists.1 (hσ m hm)
    rw [App.getElem?_history settings doc .empty m.isLt, Option.bind_some] at hp
    have hknown := (App.accepted?_answered_iff.1 hp).2.2
    rw [App.quiz_converse] at hknown
    have hwf := QuizTable.empty_wellFormed.foldl ((visits.take m).map Visit.change?)
    have hperm := (drop_reordered visits σ hfix).map Visit.change?
    -- From there on the changes that visits ask for decide, whatever else they are answered.
    have hquiz : ∀ back : List Visit,
        (App.converse settings doc .empty (visits.take m ++ back)).2.quiz =
        (back.map Visit.change?).foldl QuizTable.change
          (((visits.take m).map Visit.change?).foldl QuizTable.change .empty) := by
      intro back
      rw [App.quiz_converse, List.map_append, List.foldl_append]
      rfl
    rw [← List.take_append_drop m (List.ofFn fun i => visits[σ i]),
      take_reordered visits σ hfix, hquiz, hwf.tally_foldl_perm hknown hperm, ← hquiz,
      List.take_append_drop]
  · have hsame : (List.ofFn fun i => visits[σ i]) = List.ofFn visits.get :=
      congrArg List.ofFn (funext fun i => congrArg visits.get (by_contra fun hi => hmoved ⟨i, hi⟩))
    rw [hsame, List.ofFn_get]

/-- In any conversation from the empty tables, whatever its requests and whatever failures they
meet, the result of a question is told as the responses before it require. It is `404` exactly if no
response told that the question was created. Otherwise it counts the accepted answers to the
question and those among them that agree, up to blanks around them, with the answer that the
question was created with. A visit that neither creates the question nor has an answer to it
accepted does not change the result, and neither does another order of the accepted answers. -/
theorem result_tells_history (settings : Settings) (doc : Documentation)
    (visits : List Visit) (v : Visit) (captures : Captures) (q : QuestionId)
    (hr : v.request.Reaches .questionResult captures) (hq : oneNumber captures = .ok q.value)
    (hstore : (v.around (.tally q)).fault = none) :
    let past := App.history settings doc .empty visits
    let response := (App.answerAfter settings doc visits v).response
    (response.status = 404 ↔ ¬ ∃ a ∈ past, ∃ p, a.Created q p) ∧
    (∀ a ∈ past, ∀ p, a.Created q p →
      let given := past.filterMap (Answered.accepted? q)
      let correct := given.countP fun s => Text.trim s.answer == Text.trim p.answer
      response.status = 200 ∧ correct ≤ given.length ∧
        (v.request.method ≠ "HEAD" →
          response.body = (Tally.record.encode ⟨q, given.length, correct⟩).text)) ∧
    (∀ x : Visit, (∀ p, ¬ (App.answerAfter settings doc visits x).Created q p) →
      (App.answerAfter settings doc visits x).accepted? q = none →
      App.answerAfter settings doc (visits ++ [x]) v = App.answerAfter settings doc visits v) ∧
    ∀ σ : Equiv.Perm (Fin visits.length),
      (∀ i, σ i ≠ i → (past[i.val]?.bind (Answered.accepted? q)).isSome) →
      App.answerAfter settings doc (List.ofFn fun i => visits[σ i]) v =
        App.answerAfter settings doc visits v := by
  intro past response
  have hrecorded : Recorded past (App.converse settings doc .empty visits).2.quiz := by
    have hrun := Recorded.run (t := .empty) settings doc Recorded.begin visits
    rwa [List.nil_append] at hrun
  refine ⟨?_, fun a ha p hp => ?_, fun x hcreate haccept => ?_, fun σ hσ => ?_⟩
  · rw [← hrecorded.knows_iff]
    constructor
    · rintro hmissing ⟨question, hquestion, rfl⟩
      have htally := hrecorded.wellFormed.tally_eq hquestion
      have hfound := (App.questionResult_of_tally settings doc hr hq hstore _ htally).1
      exact absurd (hmissing.symm.trans hfound) (by decide)
    · exact App.status_questionResult_of_not_knows settings doc hr hq hstore _
  · intro given correct
    obtain ⟨question, hquestion, rfl, hanswer⟩ := hrecorded.kept a ha q p hp
    have htally := hrecorded.wellFormed.tally_eq hquestion
    rw [hrecorded.answers, List.length_map, List.countP_map, hanswer] at htally
    obtain ⟨hstatus, hbody⟩ := App.questionResult_of_tally settings doc hr hq hstore _ htally
    exact ⟨hstatus, List.countP_le_length, hbody⟩
  · refine App.answered_of_tally_eq settings doc hr hq hstore _ ?_
    have hlast : (App.converse settings doc .empty (visits ++ [x])).2 =
        (App.visit settings doc x (App.converse settings doc .empty visits).2).state :=
      App.converse_append settings doc .empty visits [x]
    rw [hlast, App.quiz_visit]
    refine hrecorded.wellFormed.tally_change (fun p now hchange hid => ?_) fun p hchange hid
      hknown => ?_
    · exact hcreate p (App.created_answered_iff.2 ⟨now, hchange, hid⟩)
    · have hstored : (App.answerAfter settings doc visits x).accepted? q = some p :=
        App.accepted?_answered_iff.2 ⟨hchange, hid, hknown⟩
      exact absurd (haccept.symm.trans hstored) nofun
  · exact App.answered_of_tally_eq settings doc hr hq hstore _
      (tally_reordered settings doc visits q σ hσ)

def shortQuiz : List Visit :=
  [posted "/api/question/create" "[1,\"short_answer\",\"c\",[],\" x\"]",
    posted "/api/question/submit" "[1,1,\"x \"]", posted "/api/question/submit" "[1,2,\"y\"]",
    posted "/api/question/submit" "[2,2,\"x\"]"]

def otherOrder : Equiv.Perm (Fin shortQuiz.length) := Equiv.swap ⟨1, by decide⟩ ⟨2, by decide⟩

def resultAsked : Visit := ⟨⟨"GET", "/api/question/result/1", [], []⟩, ⟨"k", "i"⟩, Tables.calm⟩

/-- Two answers are counted and one of them is correct, in whatever order the two are given. -/
theorem shortQuiz_result :
    (App.answerAfter .standard .null shortQuiz resultAsked).response.body =
      (Tally.record.encode ⟨⟨1⟩, 2, 1⟩).text ∧
      App.answerAfter .standard .null (List.ofFn fun i => shortQuiz[otherOrder i]) resultAsked =
        App.answerAfter .standard .null shortQuiz resultAsked := by
  have hr : resultAsked.request.Reaches .questionResult [("question_id", ['1'])] :=
    ⟨by decide +kernel, by decide⟩
  obtain ⟨_, hresult, _, horder⟩ :=
    result_tells_history .standard .null shortQuiz resultAsked _ ⟨1⟩ hr (by decide +kernel) rfl
  refine ⟨?_, horder otherOrder (by decide +kernel)⟩
  have hcreated : (App.answered .standard .null shortQuiz[0] .empty).Created ⟨1⟩ ⟨1, .shortAnswer,
      "c", [], " x"⟩ :=
    App.created_answered_iff.2 ⟨⟨0, 0⟩,
      Visit.change?_eq_create_iff.2 ⟨by decide +kernel, by decide +kernel⟩, by decide +kernel⟩
  have htotal : ((App.history .standard .null .empty shortQuiz).filterMap
      (Answered.accepted? ⟨1⟩)).length = 2 := by
    decide +kernel
  have hcorrect :
      (((App.history .standard .null .empty shortQuiz).filterMap (Answered.accepted? ⟨1⟩)).countP
      fun s => Text.trim s.answer == Text.trim " x") = 1 := by
    decide +kernel
  have hmem : App.answered .standard .null shortQuiz[0] .empty ∈ App.history .standard .null .empty
      shortQuiz :=
    List.mem_of_getElem? (App.getElem?_history .standard .null .empty
      (by decide : 0 < shortQuiz.length))
  obtain ⟨_, _, hbody⟩ := hresult _ hmem _ hcreated
  refine (hbody (by decide)).trans ?_
  rw [htotal, hcorrect]
  rfl

end LiveLesson.Http
