import LiveLesson.Proofs.Quiz.Visits

/-!
What the responses of a conversation tell about the quiz. The questions that are kept are those
whose creation was told, under the identifiers that were told; the answers that are kept are those
that were accepted, in order.
-/

namespace LiveLesson.Http

namespace App

variable (settings : Settings) (doc : Documentation)

def history (t : Tables) (visits : List Visit) : List Answered :=
  List.zipWith Answered.mk visits (converse settings doc t visits).1

theorem converse_append (t : Tables) (front back : List Visit) :
    (converse settings doc t (front ++ back)).2 =
      (converse settings doc (converse settings doc t front).2 back).2 := by
  induction front generalizing t with
  | nil => rfl
  | cons v rest ih => exact ih _

/-- What every visit keeps between the responses so far and the tables is kept by a conversation. -/
theorem history_induction {I : List Answered → Tables → Prop}
    (step : ∀ {past : List Answered} {t : Tables} (v : Visit), I past t →
      I (past ++ [answered settings doc v t]) (visit settings doc v t).state)
    {past : List Answered} {t : Tables} (h : I past t) (visits : List Visit) :
    I (past ++ history settings doc t visits) (converse settings doc t visits).2 := by
  induction visits generalizing past t with
  | nil => simpa [history, converse] using h
  | cons v rest ih =>
    have hrest := ih (step v h)
    rwa [List.append_assoc] at hrest

/-- The quiz after a conversation is made by the changes that the visits ask for. -/
theorem quiz_converse (t : Tables) (visits : List Visit) :
    (converse settings doc t visits).2.quiz =
      (visits.map Visit.change?).foldl QuizTable.change t.quiz := by
  induction visits generalizing t with
  | nil => rfl
  | cons v rest ih =>
    rw [List.map_cons, List.foldl_cons, ← quiz_visit settings doc v t]
    exact ih _

end App

/-- The quiz holds what responses told. -/
structure Recorded (past : List Answered) (quiz : QuizTable) : Prop where
  wellFormed : quiz.WellFormed
  told : ∀ question ∈ quiz.questions, ∃ a ∈ past, ∃ p, a.Created question.id p
  kept : ∀ a ∈ past, ∀ q p, a.Created q p → ∃ question ∈ quiz.questions, question.id = q ∧
    question.answer = Text.trim p.answer
  answers : ∀ q, quiz.answersTo q = (past.filterMap (Answered.accepted? q)).map SubmitAnswer.toNew

namespace Recorded

variable {past : List Answered} {t : Tables} {q : QuestionId}

theorem begin : Recorded [] .empty where
  wellFormed := QuizTable.empty_wellFormed
  told := by simp [QuizTable.empty]
  kept := by simp
  answers := by simp [QuizTable.empty, QuizTable.answersTo]

theorem knows_iff (h : Recorded past t.quiz) : t.quiz.Knows q ↔ ∃ a ∈ past, ∃ p, a.Created q p := by
  constructor
  · rintro ⟨question, hquestion, rfl⟩
    exact h.told question hquestion
  · rintro ⟨a, ha, p, hp⟩
    obtain ⟨question, hquestion, hid, _⟩ := h.kept a ha q p hp
    exact ⟨question, hquestion, hid⟩

variable (settings : Settings) (doc : Documentation)

theorem answersTo_visit (h : Recorded past t.quiz) (v : Visit) (q : QuestionId) :
    (App.visit settings doc v t).state.quiz.answersTo q =
      ((past ++ [App.answered settings doc v t]).filterMap (Answered.accepted? q)).map
      SubmitAnswer.toNew := by
  rw [App.quiz_visit, List.filterMap_append, List.map_append, ← h.answers q]
  -- An answer that comes too early is refused, as the identifier of the question is not given out
  -- yet.
  by_cases hknown : t.quiz.Knows q
  · have haccepted : (App.answered settings doc v t).accepted? q =
        QuizTable.submitted q v.change? := by
      refine Option.ext fun p => ?_
      rw [App.accepted?_answered_iff, QuizTable.submitted_eq_some_iff]
      exact and_congr_right fun _ => and_iff_left hknown
    rw [QuizTable.answersTo_change_of_knows hknown, ← haccepted]
    cases ha : (App.answered settings doc v t).accepted? q <;> simp [ha]
  · have hnone : (App.answered settings doc v t).accepted? q = none := by
      refine Option.eq_none_iff_forall_ne_some.2 fun p hp => ?_
      exact hknown (App.accepted?_answered_iff.1 hp).2.2
    rw [QuizTable.answersTo_change_of_not_knows hknown]
    simp [hnone]

theorem step (h : Recorded past t.quiz) (v : Visit) :
    Recorded (past ++ [App.answered settings doc v t]) (App.visit settings doc v t).state.quiz where
  wellFormed := by
    rw [App.quiz_visit]
    exact h.wellFormed.change v.change?
  told := by
    rw [App.quiz_visit]
    intro question hquestion
    rcases QuizTable.created_of_mem_questions_change hquestion with hquestion | ⟨p, now,
      hchange, rfl⟩
    · obtain ⟨a, ha, htold⟩ := h.told question hquestion
      exact ⟨a, List.mem_append_left _ ha, htold⟩
    · exact ⟨_, List.mem_append_right _ (List.mem_singleton_self _), p,
        App.created_answered_iff.2 ⟨now, hchange, rfl⟩⟩
  kept := by
    rw [App.quiz_visit]
    intro a ha q p hp
    rcases List.mem_append.1 ha with ha | ha
    · obtain ⟨question, hquestion, htold⟩ := h.kept a ha q p hp
      exact ⟨question, QuizTable.mem_questions_change hquestion _, htold⟩
    · obtain rfl := List.mem_singleton.1 ha
      obtain ⟨now, hchange, hid⟩ := App.created_answered_iff.1 hp
      rw [hchange]
      exact ⟨t.quiz.created p now, List.mem_append_right _ (List.mem_singleton_self _), hid, rfl⟩
  answers := h.answersTo_visit settings doc v

theorem run (h : Recorded past t.quiz) (visits : List Visit) :
    Recorded (past ++ App.history settings doc t visits)
      (App.converse settings doc t visits).2.quiz :=
  App.history_induction settings doc (I := fun past t => Recorded past t.quiz)
    (fun v hrecorded => hrecorded.step settings doc v) h visits

end Recorded

end LiveLesson.Http
