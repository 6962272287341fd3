import LiveLesson.Proofs.Quiz.Catalogue
import LiveLesson.Proofs.Quiz.Selections

/-!
Questions and answers in normal form: what is stored of a request, asked for again, is accepted and
stored as it is. So every question that is kept is free of blanks at the ends of its texts, its
options are distinct, and its answer is drawn from them if it is a choice.
-/

namespace LiveLesson

def NewQuestion.request (n : NewQuestion) : CreateQuestion :=
  ⟨n.course.value, n.type, n.content, n.options, n.answer⟩

def NewAnswer.request (n : NewAnswer) : SubmitAnswer :=
  ⟨n.question.value, n.student.value, n.answer⟩

structure Text.IsNeat (s : String) : Prop where
  trimmed : Text.trim s = s
  nonempty : s ≠ ""

theorem Text.isNeat_trim {s : String} (h : ∃ c ∈ s.toList, Text.isBlank c = false) :
    Text.IsNeat (Text.trim s) :=
  ⟨Text.trim_trim s, Text.trim_ne_empty_iff.2 h⟩

theorem Text.IsNeat.exists_notBlank {s : String} (h : Text.IsNeat s) :
    ∃ c ∈ s.toList, Text.isBlank c = false :=
  Text.trim_ne_empty_iff.1 (h.trimmed.symm ▸ h.nonempty)

theorem Text.map_trim_trim (ss : List String) :
    (ss.map Text.trim).map Text.trim = ss.map Text.trim := by
  simp [Function.comp_def, Text.trim_trim]

namespace CreateQuestion

variable {p : CreateQuestion}

theorem stated_trim (answer : String) : stated (Text.trim answer) = stated answer := by
  have hcomma : Text.isBlank ',' = false := by decide
  have hpieces := Text.map_trimChars_split hcomma answer.toList
  have hstated : ∀ cs : List Char,
      (cs.splitOn ',').map (fun piece => Text.trim (String.ofList piece)) =
      ((Text.split ',' cs).map Text.trimChars).map String.ofList := fun cs => by
    simp [Text.split_eq_splitOn, Function.comp_def, Text.trim]
  rw [stated, stated, hstated, hstated, Text.toList_trim, hpieces]

theorem fitsType_iff_stated (htype : p.type = .multipleChoice) : p.FitsType ↔
    2 ≤ p.options.length ∧ ∀ s ∈ stated p.answer, s ≠ "" ∧ s ∈ p.options.map Text.trim := by
  simp only [FitsType, htype, stated, List.forall_mem_map]

theorem fitsType_request_toNew (h : p.FitsType) : p.toNew.request.FitsType := by
  cases htype : p.type with
  | singleChoice =>
    simp only [FitsType, htype, NewQuestion.request, toNew, List.length_map, Text.map_trim_trim,
      Text.trim_trim] at h ⊢
    exact h
  | multipleChoice =>
    have hsame : p.toNew.request.type = .multipleChoice := htype
    rw [fitsType_iff_stated htype] at h
    rw [fitsType_iff_stated hsame]
    simpa only [NewQuestion.request, toNew, List.length_map, Text.map_trim_trim,
      stated_trim] using h
  | trueFalse =>
    simp only [FitsType, htype, NewQuestion.request, toNew, Text.trim_trim] at h ⊢
    exact h
  | shortAnswer =>
    simp only [FitsType, htype, NewQuestion.request, toNew]

theorem toNew_request_toNew (p : CreateQuestion) : p.toNew.request.toNew = p.toNew := by
  simp only [toNew, NewQuestion.request, Text.trim_trim, Text.map_trim_trim]

/-- What is stored may be asked for. -/
theorem IsAcceptable.request_toNew (h : p.IsAcceptable) : p.toNew.request.IsAcceptable where
  course := h.course
  content := ⟨Nat.le_trans (Text.length_trim_le p.content) h.content.1,
    (Text.isNeat_trim h.content.2).exists_notBlank⟩
  answer := ⟨Nat.le_trans (Text.length_trim_le p.answer) h.answer.1,
    (Text.isNeat_trim h.answer.2).exists_notBlank⟩
  optionCount := Nat.le_trans (Nat.le_of_eq (List.length_map Text.trim)) h.optionCount
  optionLength := List.forall_mem_map.2 fun o ho => by
    rw [Text.trim_trim]
    exact h.optionLength o ho
  distinct := by
    have hdistinct := h.distinct
    rwa [← Text.map_trim_trim] at hdistinct
  type := fitsType_request_toNew h.type

end CreateQuestion

namespace SubmitAnswer

variable {p : SubmitAnswer}

theorem toNew_request_toNew (p : SubmitAnswer) : p.toNew.request.toNew = p.toNew := by
  simp only [toNew, NewAnswer.request, Text.trim_trim]

theorem violations_eq_nil_iff : p.violations = [] ↔
    (p.answer.toList.length ≤ 1000 ∧ ∃ c ∈ p.answer.toList, Text.isBlank c = false) ∧
      1 ≤ p.questionId ∧ 1 ≤ p.studentId := by
  simp only [violations, List.append_eq_nil_iff, Rule.textUpTo_eq_nil_iff,
    Rule.positive_eq_nil_iff, and_assoc]

theorem violations_request_toNew (h : p.violations = []) : p.toNew.request.violations = [] := by
  obtain ⟨⟨hlength, hblank⟩, hids⟩ := violations_eq_nil_iff.1 h
  exact violations_eq_nil_iff.2
    ⟨⟨Nat.le_trans (Text.length_trim_le p.answer) hlength,
      (Text.isNeat_trim hblank).exists_notBlank⟩, hids⟩

end SubmitAnswer

structure Question.IsNormal (q : Question) : Prop where
  content : Text.IsNeat q.content
  answer : Text.IsNeat q.answer
  options : ∀ o ∈ q.options, Text.IsNeat o
  distinct : q.options.Nodup
  oneDrawn : q.type = .singleChoice → q.answer ∈ q.options
  allDrawn : q.type = .multipleChoice → ∀ s ∈ CreateQuestion.stated q.answer, s ∈ q.options

theorem CreateQuestion.IsAcceptable.isNormal_asked {p : CreateQuestion} (h : p.IsAcceptable)
    (id : QuestionId) (now : Timestamp) : (p.asked id now).IsNormal where
  content := Text.isNeat_trim h.content.2
  answer := Text.isNeat_trim h.answer.2
  options := List.forall_mem_map.2 fun o ho => by
    have hlength := (h.optionLength o ho).1
    refine ⟨Text.trim_trim o, fun hempty => ?_⟩
    rw [hempty] at hlength
    exact absurd hlength (by decide)
  distinct := h.distinct
  oneDrawn htype := by
    have htype' : p.type = .singleChoice := htype
    have hfits := h.type
    rw [FitsType, htype'] at hfits
    exact hfits.2
  allDrawn htype s hs := by
    have hs' : s ∈ stated (Text.trim p.answer) := hs
    rw [stated_trim] at hs'
    exact (((fitsType_iff_stated htype).1 h.type).2 s hs').2

namespace Http

theorem Catalogued.isNormal {past : List Answered} {quiz : QuizTable} (h : Catalogued past quiz) :
    ∀ question ∈ quiz.questions, question.IsNormal := by
  intro question hquestion
  obtain ⟨a, _, p, hstores⟩ := h.told question hquestion
  obtain ⟨now, hasked⟩ := hstores.asked
  obtain ⟨_, haccepted⟩ := of_payload_eq_ok hstores.created.payload
  rw [hasked]
  exact ((CreateQuestion.violations_eq_nil_iff_isAcceptable p).1 haccepted).isNormal_asked _ _

/-- What is stored of a request that is accepted would be accepted as a request and stored as it is,
and so would what is stored of an answer. After any conversation from the empty tables, whatever its
requests and whatever failures they meet, every question that is kept has a content, an answer and
options that are trimmed and not blank; no two options are the same, and the answer to a choice is
drawn from them. -/
theorem stored_form_stable :
    (∀ p : CreateQuestion, p.violations = [] →
      p.toNew.request.violations = [] ∧ p.toNew.request.toNew = p.toNew) ∧
    (∀ p : SubmitAnswer, p.violations = [] →
      p.toNew.request.violations = [] ∧ p.toNew.request.toNew = p.toNew) ∧
    ∀ (settings : Settings) (doc : Documentation) (visits : List Visit),
      ∀ question ∈ (App.converse settings doc .empty visits).2.quiz.questions,
      question.IsNormal := by
  refine ⟨fun p h => ⟨?_, p.toNew_request_toNew⟩,
    fun p h => ⟨SubmitAnswer.violations_request_toNew h, p.toNew_request_toNew⟩,
    fun settings doc visits => ?_⟩
  · exact (CreateQuestion.violations_eq_nil_iff_isAcceptable _).2
      ((CreateQuestion.violations_eq_nil_iff_isAcceptable p).1 h).request_toNew
  · have hrun := Catalogued.run (t := .empty) settings doc Catalogued.begin visits
    rw [List.nil_append] at hrun
    exact hrun.isNormal

/-- Of two questions that are created, the second one has blanks around its content and one of its
options. -/
theorem second_course_normal :
    (CreateQuestion.toNew ⟨2, .multipleChoice, " d ", [" x ", "y"], " y , x "⟩).request.violations =
      [] ∧
      (SubmitAnswer.toNew ⟨2, 1, " x "⟩).request.violations = [] ∧
      (Question.mk ⟨2⟩ ⟨2⟩ .singleChoice "d" ["x", "y"] "x" ⟨0, 0⟩).IsNormal :=
  ⟨(stored_form_stable.1 ⟨2, .multipleChoice, " d ", [" x ", "y"], " y , x "⟩ (by decide)).1,
    (stored_form_stable.2.1 ⟨2, 1, " x "⟩ (by decide)).1,
    stored_form_stable.2.2 .standard .null twoCourses _ (by rw [App.quiz_converse]; decide +kernel)⟩

end Http

end LiveLesson
