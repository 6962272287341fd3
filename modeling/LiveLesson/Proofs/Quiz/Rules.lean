import LiveLesson.Proofs.Validation.Rules
import LiveLesson.Quiz.Payload

/-!
Which questions may be created: the rules on each field, and what the answer has to be for a
question of its type.
-/

namespace LiveLesson.CreateQuestion

variable (p : CreateQuestion)

/-- The answer names one of the options, or each piece of it between commas does; blanks around a
name do not count. -/
def AnswerIsDrawn : Prop :=
  match p.type with
  | .multipleChoice => ∀ piece ∈ p.answer.toList.splitOn ',',
    Text.trim (String.ofList piece) ≠ "" ∧ Text.trim (String.ofList piece) ∈ p.options.map Text.trim
  | _ => Text.trim p.answer ∈ p.options.map Text.trim

/-- The first rule on the payload as a whole that is broken. -/
inductive BreaksWhole : RuleCode → Prop
  | fewOptions : p.type.isChoice = true → p.options.length < 2 →
    BreaksWhole .choiceRequiresTwoOptions
  | foreignAnswer : p.type.isChoice = true → 2 ≤ p.options.length → ¬p.AnswerIsDrawn →
    BreaksWhole .choiceAnswerNotAnOption
  | noTruthValue : p.type = .trueFalse → Text.trim p.answer ≠ "true" →
    Text.trim p.answer ≠ "false" →
    BreaksWhole .trueFalseAnswerInvalid

/-- What the type of a question asks of its options and its answer. -/
def FitsType : Prop :=
  match p.type with
  | .singleChoice => 2 ≤ p.options.length ∧ Text.trim p.answer ∈ p.options.map Text.trim
  | .multipleChoice => 2 ≤ p.options.length ∧ ∀ piece ∈ p.answer.toList.splitOn ',',
    Text.trim (String.ofList piece) ≠ "" ∧ Text.trim (String.ofList piece) ∈ p.options.map Text.trim
  | .trueFalse => Text.trim p.answer = "true" ∨ Text.trim p.answer = "false"
  | .shortAnswer => True

structure IsAcceptable : Prop where
  course : 1 ≤ p.courseId
  content : p.content.toList.length ≤ 4000 ∧ ∃ c ∈ p.content.toList, Text.isBlank c = false
  answer : p.answer.toList.length ≤ 1000 ∧ ∃ c ∈ p.answer.toList, Text.isBlank c = false
  optionCount : p.options.length ≤ 26
  optionLength : ∀ o ∈ p.options, 1 ≤ (Text.trim o).toList.length ∧
    (Text.trim o).toList.length ≤ 500
  distinct : (p.options.map Text.trim).Nodup
  type : p.FitsType

variable {p}

theorem all_pieces_iff (chosen : List Char → Bool) (answer : String) :
    (Text.split ',' (Text.trimChars answer.toList)).all
      (fun piece => chosen (Text.trimChars piece)) = true ↔
      ∀ piece ∈ answer.toList.splitOn ',', chosen (Text.trimChars piece) = true := by
  have hmap : ∀ pieces : List (List Char), pieces.all (fun piece => chosen (Text.trimChars piece)) =
      (pieces.map Text.trimChars).all chosen := fun pieces => by rw [List.all_map]; rfl
  rw [hmap, Text.map_trimChars_split (by decide), ← hmap, Text.split_eq_splitOn, List.all_eq_true]

theorem contains_trimmedOptions (s : String) :
    p.trimmedOptions.contains (Text.trimChars s.toList) = true ↔
    Text.trim s ∈ p.options.map Text.trim := by
  rw [List.contains_iff_mem, trimmedOptions, Text.mem_map_trim_iff]

theorem piece_is_option (piece : List Char) :
    (!(Text.trimChars piece).isEmpty && p.trimmedOptions.contains (Text.trimChars piece)) = true ↔
      Text.trim (String.ofList piece) ≠ "" ∧
      Text.trim (String.ofList piece) ∈ p.options.map Text.trim := by
  have hcontains := contains_trimmedOptions (p := p) (String.ofList piece)
  rw [String.toList_ofList] at hcontains
  rw [Bool.and_eq_true, hcontains, Ne, Text.trim_eq_empty_iff, String.toList_ofList,
    Bool.not_eq_true', List.isEmpty_eq_false_iff]

theorem answerUsesOptions_iff : p.answerUsesOptions = true ↔ p.AnswerIsDrawn := by
  unfold answerUsesOptions AnswerIsDrawn
  cases htype : p.type with
  | multipleChoice =>
    have hpieces :=
      all_pieces_iff (fun choice => !choice.isEmpty && p.trimmedOptions.contains choice) p.answer
    simp only [piece_is_option] at hpieces
    simpa only [if_true] using hpieces
  | _ =>
    rw [if_neg (by simp)]
    exact contains_trimmedOptions p.answer

theorem shapeFault_eq_some_iff {code : RuleCode} :
    p.shapeFault = some code ↔ p.BreaksWhole code := by
  have hdrawn : p.answerUsesOptions = false ↔ ¬p.AnswerIsDrawn := by
    rw [← answerUsesOptions_iff, Bool.not_eq_true]
  constructor
  · intro h
    unfold shapeFault at h
    dsimp only at h
    split at h
    · next hfew =>
      obtain ⟨hchoice, hfew⟩ : p.type.isChoice = true ∧ p.options.length < 2 := by simpa using hfew
      cases h
      exact .fewOptions hchoice hfew
    · next hmany =>
      split at h
      · next hforeign =>
        obtain ⟨hchoice, hforeign⟩ : p.type.isChoice = true ∧
            p.answerUsesOptions = false := by simpa using hforeign
        cases h
        exact .foreignAnswer hchoice (Nat.le_of_not_lt fun hfew => hmany (by simp [hchoice, hfew]))
          (hdrawn.1 hforeign)
      · split at h
        · next hvalue =>
          obtain ⟨htype, htrue, hfalse⟩ :
            p.type = .trueFalse ∧ ¬Text.trim p.answer = "true" ∧ ¬Text.trim p.answer = "false" := by
            simpa using hvalue
          cases h
          exact .noTruthValue htype htrue hfalse
        · cases h
  · intro h
    cases h with
    | fewOptions hchoice hfew => simp [shapeFault, hchoice, hfew]
    | foreignAnswer hchoice hmany hforeign =>
      simp [shapeFault, hchoice, Nat.not_lt.2 hmany, hdrawn.2 hforeign]
    | noTruthValue htype htrue hfalse =>
      simp [shapeFault, htype, QuestionType.isChoice, htrue, hfalse]

theorem not_breaksWhole_iff_of_choice (hchoice : p.type.isChoice = true) :
    (∀ code, ¬p.BreaksWhole code) ↔ 2 ≤ p.options.length ∧ p.AnswerIsDrawn := by
  constructor
  · intro h
    have hmany : 2 ≤ p.options.length := Nat.le_of_not_lt fun hfew => h _ (.fewOptions hchoice hfew)
    exact ⟨hmany, Classical.not_not.1 fun hforeign => h _ (.foreignAnswer hchoice hmany hforeign)⟩
  · rintro ⟨hmany, hdrawn⟩ code hbreaks
    cases hbreaks with
    | fewOptions _ hfew => exact Nat.not_lt.2 hmany hfew
    | foreignAnswer _ _ hforeign => exact hforeign hdrawn
    | noTruthValue htype => rw [htype] at hchoice; cases hchoice

theorem not_breaksWhole_iff : (∀ code, ¬p.BreaksWhole code) ↔ p.FitsType := by
  unfold FitsType
  cases htype : p.type with
  | singleChoice =>
    rw [not_breaksWhole_iff_of_choice (by rw [htype]; rfl), AnswerIsDrawn, htype]
  | multipleChoice =>
    rw [not_breaksWhole_iff_of_choice (by rw [htype]; rfl), AnswerIsDrawn, htype]
  | trueFalse =>
    constructor
    · intro h
      by_cases htrue : Text.trim p.answer = "true"
      · exact .inl htrue
      · exact .inr (Classical.not_not.1 fun hfalse => h _ (.noTruthValue htype htrue hfalse))
    · rintro hvalue code hbreaks
      cases hbreaks with
      | noTruthValue _ htrue hfalse => exact hvalue.elim htrue hfalse
      | fewOptions hchoice => rw [htype] at hchoice; cases hchoice
      | foreignAnswer hchoice => rw [htype] at hchoice; cases hchoice
  | shortAnswer =>
    refine iff_of_true (fun code hbreaks => ?_) trivial
    cases hbreaks with
    | noTruthValue hother => rw [htype] at hother; cases hother
    | fewOptions hchoice => rw [htype] at hchoice; cases hchoice
    | foreignAnswer hchoice => rw [htype] at hchoice; cases hchoice

theorem shapeFault_eq_none_iff : p.shapeFault = none ↔ p.FitsType := by
  rw [← not_breaksWhole_iff, Option.eq_none_iff_forall_ne_some]
  exact forall_congr' fun code => not_congr shapeFault_eq_some_iff

theorem fieldViolations_eq_nil_iff : p.fieldViolations = [] ↔
    (p.answer.toList.length ≤ 1000 ∧ ∃ c ∈ p.answer.toList, Text.isBlank c = false) ∧
      (p.content.toList.length ≤ 4000 ∧ ∃ c ∈ p.content.toList, Text.isBlank c = false) ∧
      1 ≤ p.courseId ∧ Rule.optionsFault p.options = none := by
  simp only [fieldViolations, List.append_eq_nil_iff, Rule.textUpTo_eq_nil_iff,
    Rule.positive_eq_nil_iff, Rule.options_eq_nil_iff, and_assoc]

/-- Nothing is reported if the rules on fields are kept, and then those on the whole payload. -/
theorem violations_eq_nil_iff :
    p.violations = [] ↔ p.fieldViolations = [] ∧ p.shapeFault = none := by
  unfold violations
  cases p.fieldViolations with
  | nil => cases p.shapeFault <;> simp
  | cons v vs => simp

/-- Validation accepts exactly the questions that may be created. -/
theorem violations_eq_nil_iff_isAcceptable (p : CreateQuestion) :
    p.violations = [] ↔ p.IsAcceptable := by
  have hlength : ∀ s : String, s ≠ "" ↔ 1 ≤ s.toList.length := fun s => by
    rw [Nat.one_le_iff_ne_zero, Ne, Ne, List.length_eq_zero_iff, String.toList_eq_nil_iff]
  rw [violations_eq_nil_iff, fieldViolations_eq_nil_iff, Rule.optionsFault_eq_none_iff,
    shapeFault_eq_none_iff]
  simp only [hlength]
  constructor
  · rintro ⟨⟨hanswer, hcontent, hcourse, hcount, hoptions, hdistinct⟩, htype⟩
    exact ⟨hcourse, hcontent, hanswer, hcount, hoptions, hdistinct, htype⟩
  · rintro ⟨hcourse, hcontent, hanswer, hcount, hoptions, hdistinct, htype⟩
    exact ⟨⟨hanswer, hcontent, hcourse, hcount, hoptions, hdistinct⟩, htype⟩

end LiveLesson.CreateQuestion
