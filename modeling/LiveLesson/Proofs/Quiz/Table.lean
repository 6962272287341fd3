import LiveLesson.Store.QuizTable
import Mathlib.Data.List.Nodup

/-!
The table of questions and answers under its two changes: a question is created, an answer is
submitted. Identifiers are given out once, so a question is found under its own; which questions
there are does not depend on the answers.
-/

namespace LiveLesson

inductive QuizChange where
  | create (p : CreateQuestion) (now : Timestamp)
  | submit (p : SubmitAnswer)

namespace QuizTable

def change (t : QuizTable) : Option QuizChange → QuizTable
  | none => t
  | some (.create p now) => (t.create p.toNew now).2
  | some (.submit p) => (t.insertAnswer p.toNew).2

def created (t : QuizTable) (p : CreateQuestion) (now : Timestamp) : Question :=
  (t.create p.toNew now).1

def Knows (t : QuizTable) (id : QuestionId) : Prop := ∃ q ∈ t.questions, q.id = id

/-- Identifiers are given out in order, each of them once. -/
structure WellFormed (t : QuizTable) : Prop where
  bounds : ∀ q ∈ t.questions, q.id.value ≤ t.lastId
  distinct : t.questions.Pairwise fun p q => p.id ≠ q.id

variable {t : QuizTable} {id : QuestionId}

theorem WellFormed.eq_of_id (h : t.WellFormed) {q r : Question} (hq : q ∈ t.questions)
    (hr : r ∈ t.questions) (hid : q.id = r.id) : q = r :=
  List.inj_on_of_nodup_map (List.pairwise_map.2 h.distinct) hq hr hid

theorem empty_wellFormed : empty.WellFormed where
  bounds := by simp [empty]
  distinct := List.Pairwise.nil

instance (t : QuizTable) (id : QuestionId) : Decidable (t.Knows id) :=
  inferInstanceAs (Decidable (∃ q ∈ t.questions, q.id = id))

theorem any_eq_true_iff : (t.questions.any fun q => q.id == id) = true ↔ t.Knows id := by
  simp [Knows]

section Distinct

variable {questions questions' : List Question}
  (hdistinct : questions.Pairwise fun p q => p.id ≠ q.id)
  {p : Question → Bool} (hp : ∀ q, p q = true → q.id = id)

include hdistinct hp

theorem filter_eq_find? : questions.filter p = (questions.find? p).toList := by
  induction hdistinct with
  | nil => rfl
  | @cons q questions hq _ ih =>
    cases hpq : p q with
    | true =>
      have hothers : questions.filter p = [] :=
        List.filter_eq_nil_iff.2 fun r hr hpr => hq r hr ((hp q hpq).trans (hp r hpr).symm)
      simp [hpq, hothers]
    | false => simpa [hpq] using ih

theorem find?_perm (hperm : questions.Perm questions') :
    questions.find? p = questions'.find? p := by
  have hdistinct' := (hperm.pairwise_iff fun hne => Ne.symm hne).1 hdistinct
  have hfound := hperm.filter p
  rw [filter_eq_find? hdistinct hp, filter_eq_find? hdistinct' hp] at hfound
  refine Option.ext fun q => ?_
  rw [← Option.mem_toList, hfound.mem_iff, Option.mem_toList]

end Distinct

theorem question?_eq_none_iff : t.question? id = none ↔ ¬ t.Knows id := by
  simp [question?, Knows]

theorem id_of_question? {q : Question} (h : t.question? id = some q) : q.id = id := by
  simpa using List.find?_some h

theorem knows_of_question? {q : Question} (h : t.question? id = some q) : t.Knows id :=
  ⟨q, List.mem_of_find?_eq_some h, id_of_question? h⟩

theorem questions_insertAnswer (t : QuizTable) (a : NewAnswer) :
    (t.insertAnswer a).2.questions = t.questions ∧ (t.insertAnswer a).2.lastId = t.lastId := by
  unfold insertAnswer
  split <;> exact ⟨rfl, rfl⟩

theorem insertAnswer_of_knows {a : NewAnswer} (h : t.Knows a.question) :
    t.insertAnswer a = (true, { t with answers := t.answers ++ [a] }) := by
  rw [insertAnswer, if_pos (any_eq_true_iff.2 h)]

theorem insertAnswer_of_not_knows {a : NewAnswer} (h : ¬ t.Knows a.question) :
    t.insertAnswer a = (false, t) := by
  rw [insertAnswer, if_neg fun hany => h (any_eq_true_iff.1 hany)]

theorem insertAnswer_fst (t : QuizTable) (a : NewAnswer) :
    (t.insertAnswer a).1 = decide (t.Knows a.question) := by
  by_cases hknown : t.Knows a.question
  · rw [insertAnswer_of_knows hknown, decide_eq_true hknown]
  · rw [insertAnswer_of_not_knows hknown, decide_eq_false hknown]

theorem answers_insertAnswer (t : QuizTable) (a : NewAnswer) :
    (t.insertAnswer a).2.answers = t.answers ++ if t.Knows a.question then [a] else [] := by
  by_cases hknown : t.Knows a.question
  · rw [insertAnswer_of_knows hknown, if_pos hknown]
  · rw [insertAnswer_of_not_knows hknown, if_neg hknown, List.append_nil]

theorem WellFormed.not_knows_next (h : t.WellFormed) : ¬ t.Knows ⟨t.lastId + 1⟩ := by
  rintro ⟨q, hq, hid⟩
  have hle := h.bounds q hq
  rw [hid] at hle
  exact Int.not_le.2 (Int.lt_succ t.lastId) hle

theorem WellFormed.not_knows_created (h : t.WellFormed) (p : CreateQuestion) (now : Timestamp) :
    ¬ t.Knows (t.created p now).id :=
  h.not_knows_next

theorem WellFormed.create (h : t.WellFormed) (q : NewQuestion) (now : Timestamp) :
    (t.create q now).2.WellFormed := by
  refine ⟨fun r hr => ?_, List.pairwise_append.2 ⟨h.distinct, List.pairwise_singleton _ _,
    fun r hr s hs hid => ?_⟩⟩
  · rcases List.mem_append.1 hr with hr | hr
    · exact Int.le_trans (h.bounds r hr) (Int.le_add_of_nonneg_right (by decide))
    · obtain rfl := List.mem_singleton.1 hr
      exact Int.le_refl _
  · obtain rfl := List.mem_singleton.1 hs
    exact h.not_knows_next ⟨r, hr, hid⟩

theorem WellFormed.insertAnswer (h : t.WellFormed) (a : NewAnswer) :
    (t.insertAnswer a).2.WellFormed := by
  obtain ⟨hquestions, hlast⟩ := t.questions_insertAnswer a
  exact ⟨fun q hq => hlast ▸ h.bounds q (hquestions ▸ hq), hquestions.symm ▸ h.distinct⟩

theorem WellFormed.change (h : t.WellFormed) (c : Option QuizChange) : (t.change c).WellFormed := by
  rcases c with _ | ⟨p, now⟩ | p
  · exact h
  · exact h.create p.toNew now
  · exact h.insertAnswer p.toNew

theorem created_of_mem_questions_change {q : Question} {c : Option QuizChange}
    (hq : q ∈ (t.change c).questions) :
    q ∈ t.questions ∨ ∃ p now, c = some (.create p now) ∧ q = t.created p now := by
  rcases c with _ | ⟨p, now⟩ | p
  · exact .inl hq
  · rcases List.mem_append.1 hq with hq | hq
    · exact .inl hq
    · exact .inr ⟨p, now, rfl, List.mem_singleton.1 hq⟩
  · exact .inl ((t.questions_insertAnswer p.toNew).1 ▸ hq)

theorem mem_questions_change {q : Question} (hq : q ∈ t.questions) (c : Option QuizChange) :
    q ∈ (t.change c).questions := by
  rcases c with _ | ⟨p, now⟩ | p
  · exact hq
  · exact List.mem_append_left _ hq
  · exact (t.questions_insertAnswer p.toNew).1.symm ▸ hq

theorem Knows.change (h : t.Knows id) (c : Option QuizChange) : (t.change c).Knows id := by
  obtain ⟨q, hq, hid⟩ := h
  exact ⟨q, mem_questions_change hq c, hid⟩

def submitted (id : QuestionId) : Option QuizChange → Option SubmitAnswer
  | some (.submit p) => if p.toNew.question = id then some p else none
  | _ => none

theorem submitted_eq_some_iff {c : Option QuizChange} {p : SubmitAnswer} :
    submitted id c = some p ↔ c = some (.submit p) ∧ p.toNew.question = id := by
  rcases c with _ | ⟨p', now⟩ | p'
  · simp [submitted]
  · simp [submitted]
  · simp only [submitted, Option.ite_none_right_eq_some, Option.some_inj, QuizChange.submit.injEq]
    constructor
    · rintro ⟨hid, rfl⟩
      exact ⟨rfl, hid⟩
    · rintro ⟨rfl, hid⟩
      exact ⟨hid, rfl⟩

def answersTo (t : QuizTable) (id : QuestionId) : List NewAnswer :=
  t.answers.filter fun a => a.question == id

theorem answersTo_change_of_not_knows (h : ¬ t.Knows id) (c : Option QuizChange) :
    (t.change c).answersTo id = t.answersTo id := by
  rcases c with _ | ⟨p, now⟩ | p
  · rfl
  · rfl
  · by_cases hknown : t.Knows p.toNew.question
    · have hother : p.toNew.question ≠ id := fun hid => h (hid ▸ hknown)
      simp [QuizTable.change, insertAnswer_of_knows hknown, answersTo, hother]
    · rw [QuizTable.change, insertAnswer_of_not_knows hknown]

theorem answersTo_change_of_knows (h : t.Knows id) (c : Option QuizChange) :
    (t.change c).answersTo id =
      t.answersTo id ++ ((submitted id c).map SubmitAnswer.toNew).toList := by
  rcases c with _ | ⟨p, now⟩ | p
  · exact (List.append_nil _).symm
  · exact (List.append_nil _).symm
  · by_cases hid : p.toNew.question = id
    · subst hid
      simp [QuizTable.change, insertAnswer_of_knows h, answersTo, submitted]
    · have hother : (t.change (some (.submit p))).answersTo id = t.answersTo id := by
        by_cases hknown : t.Knows p.toNew.question
        · simp [QuizTable.change, insertAnswer_of_knows hknown, answersTo, hid]
        · rw [QuizTable.change, insertAnswer_of_not_knows hknown]
      rw [hother, submitted, if_neg hid]
      exact (List.append_nil _).symm

theorem answersTo_foldl (h : t.Knows id) (cs : List (Option QuizChange)) :
    (cs.foldl change t).answersTo id =
      t.answersTo id ++ (cs.filterMap (submitted id)).map SubmitAnswer.toNew := by
  induction cs generalizing t with
  | nil => exact (List.append_nil _).symm
  | cons c cs ih =>
    rw [List.foldl_cons, ih (h.change c), answersTo_change_of_knows h c, List.append_assoc]
    cases hc : submitted id c with
    | none => simp [hc]
    | some p => simp [hc]

theorem tally_eq_none_iff : t.tally id = none ↔ ¬ t.Knows id := by
  rw [tally, Option.map_eq_none_iff, question?_eq_none_iff]

theorem tally_of_question? {q : Question} (h : t.question? id = some q) :
    t.tally id = some ⟨id, (t.answersTo id).length,
      (t.answersTo id).countP fun a => a.answer == q.answer⟩ := by
  rw [tally, h, Option.map_some, List.countP_eq_length_filter, answersTo]

theorem tally_of_unanswered (hknown : t.Knows id) (hnone : ∀ a ∈ t.answers, a.question ≠ id) :
    t.tally id = some ⟨id, 0, 0⟩ := by
  have hgiven : t.answersTo id = [] :=
    List.filter_eq_nil_iff.2 fun a ha => by simpa using hnone a ha
  cases hq : t.question? id with
  | none => exact absurd hknown (question?_eq_none_iff.1 hq)
  | some q =>
    rw [tally_of_question? hq, hgiven]
    rfl

/-- The tally of a question compares its answer with the answers that were given to it. -/
theorem WellFormed.tally_eq (h : t.WellFormed) {q : Question} (hq : q ∈ t.questions) :
    t.tally q.id = some ⟨q.id, (t.answersTo q.id).length,
      (t.answersTo q.id).countP fun a => a.answer == q.answer⟩ := by
  have hfound : t.question? q.id = some q := by
    cases hr : t.question? q.id with
    | none => exact absurd ⟨q, hq, rfl⟩ (question?_eq_none_iff.1 hr)
    | some r =>
      exact congrArg some (h.eq_of_id (List.mem_of_find?_eq_some hr) hq (id_of_question? hr))
  exact tally_of_question? hfound

theorem WellFormed.tally_change (h : t.WellFormed) {c : Option QuizChange}
    (hcreate : ∀ p now, c = some (.create p now) → (t.created p now).id ≠ id)
    (hsubmit : ∀ p, c = some (.submit p) → p.toNew.question = id → ¬ t.Knows id) :
    (t.change c).tally id = t.tally id := by
  by_cases hknown : t.Knows id
  · have hnone : submitted id c = none := by
      rcases c with _ | ⟨p, now⟩ | p
      · rfl
      · rfl
      · exact if_neg fun hid => hsubmit p rfl hid hknown
    have hanswers := answersTo_change_of_knows hknown c
    rw [hnone, Option.map_none, Option.toList_none, List.append_nil] at hanswers
    obtain ⟨q, hq, rfl⟩ := hknown
    rw [h.tally_eq hq, (h.change c).tally_eq (mem_questions_change hq c), hanswers]
  · have hunknown : ¬ (t.change c).Knows id := by
      rintro ⟨q, hq, hid⟩
      rcases created_of_mem_questions_change hq with hq | ⟨p, now, hc, rfl⟩
      · exact hknown ⟨q, hq, hid⟩
      · exact hcreate p now hc hid
    rw [tally_eq_none_iff.2 hknown, tally_eq_none_iff.2 hunknown]

theorem WellFormed.foldl (h : t.WellFormed) (cs : List (Option QuizChange)) :
    (cs.foldl QuizTable.change t).WellFormed := by
  induction cs generalizing t with
  | nil => exact h
  | cons c cs ih => exact ih (h.change c)

theorem mem_questions_foldl {q : Question} (hq : q ∈ t.questions) (cs : List (Option QuizChange)) :
    q ∈ (cs.foldl change t).questions := by
  induction cs generalizing t with
  | nil => exact hq
  | cons c cs ih => exact ih (mem_questions_change hq c)

/-- Once a question is known, the order of what follows does not matter for its tally. -/
theorem WellFormed.tally_foldl_perm (h : t.WellFormed) (hknown : t.Knows id)
    {cs cs' : List (Option QuizChange)} (hperm : cs.Perm cs') :
    (cs.foldl QuizTable.change t).tally id = (cs'.foldl QuizTable.change t).tally id := by
  have hanswers : ((cs.foldl QuizTable.change t).answersTo id).Perm
      ((cs'.foldl QuizTable.change t).answersTo id) := by
    rw [answersTo_foldl hknown, answersTo_foldl hknown]
    exact ((hperm.filterMap _).map _).append_left _
  obtain ⟨q, hq, rfl⟩ := hknown
  rw [(h.foldl cs).tally_eq (mem_questions_foldl hq cs),
    (h.foldl cs').tally_eq (mem_questions_foldl hq cs'), hanswers.length_eq, hanswers.countP_eq]

end QuizTable

end LiveLesson
