import LiveLesson.Proofs.Quiz.Rules
import LiveLesson.Session.Payload

/-!
Which rules the payloads of requests break. The violations of a payload report each of these and
nothing else, so a report is short and holds no entry twice.
-/

namespace LiveLesson

open Violation

/-- Rules of which clients can be told: few, short, and no two told in the same words. The options
break one of them at most, and a rule on the payload as a whole stands alone. -/
structure IsReport (rules : List (String × RuleCode)) : Prop where
  distinct : (rules.map RuleCode.entry).Nodup
  optionsOnce : (rules.filter fun r => r.1 == "options").length ≤ 1
  wholeAlone : wholePayload ∈ rules.map Prod.fst → rules.length ≤ 1
  few : rules.length ≤ 6
  short : ∀ r ∈ rules, (RuleCode.entry r).toList.length ≤ 50

theorem IsReport.of_sublist {rules all : List (String × RuleCode)} (h : IsReport all)
    (hsub : rules.Sublist all) :
    IsReport rules where
  distinct := h.distinct.sublist (hsub.map _)
  optionsOnce := Nat.le_trans (hsub.filter _).length_le h.optionsOnce
  wholeAlone hmem := Nat.le_trans hsub.length_le (h.wholeAlone ((hsub.map _).subset hmem))
  few := Nat.le_trans hsub.length_le h.few
  short r hr := h.short r (hsub.subset hr)

theorem ite_sublist {α : Type} (c : Prop) [Decidable c] (a : α) :
    (if c then [a] else []).Sublist [a] := by
  split
  · exact List.Sublist.refl _
  · exact List.nil_sublist _

namespace CreateSession

inductive Breaks (p : CreateSession) : String → RuleCode → Prop
  | courseId : p.courseId < 1 → Breaks p "course_id" .range

theorem mem_rules_iff {p : CreateSession} {field : String} {code : RuleCode} :
    (field, code) ∈ rules p.violations ↔ p.Breaks field code := by
  rw [violations, Rule.rules_positive, List.mem_ite_nil_right, List.mem_singleton, Prod.mk.injEq]
  constructor
  · rintro ⟨h, rfl, rfl⟩
    exact .courseId h
  · rintro ⟨h⟩
    exact ⟨h, rfl, rfl⟩

theorem isReport_rules (p : CreateSession) : IsReport (rules p.violations) := by
  have hall : IsReport [("course_id", .range)] :=
    ⟨by decide +kernel, by decide, by decide, by decide, by decide +kernel⟩
  rw [violations, Rule.rules_positive]
  exact hall.of_sublist (ite_sublist _ _)

end CreateSession

namespace StatusCallback

inductive Breaks (p : StatusCallback) : String → RuleCode → Prop
  | path : p.streamPath.toList.length < 1 ∨ 512 < p.streamPath.toList.length →
    Breaks p "stream_path" .length
  | status : 64 < p.status.toList.length → Breaks p "status" .length

theorem mem_rules_iff {p : StatusCallback} {field : String} {code : RuleCode} :
    (field, code) ∈ rules p.violations ↔ p.Breaks field code := by
  simp only [violations, rules_append, Rule.rules_lengthWithin, List.mem_append,
    List.mem_ite_nil_right, List.mem_singleton, Prod.mk.injEq]
  constructor
  · rintro (⟨h, rfl, rfl⟩ | ⟨h, rfl, rfl⟩)
    · exact .status (h.resolve_left (Nat.not_lt_zero _))
    · exact .path h
  · rintro (h | h)
    · exact .inr ⟨h, rfl, rfl⟩
    · exact .inl ⟨.inr h, rfl, rfl⟩

theorem isReport_rules (p : StatusCallback) : IsReport (rules p.violations) := by
  have hall : IsReport [("status", .length), ("stream_path", .length)] :=
    ⟨by decide +kernel, by decide, by decide, by decide, by decide +kernel⟩
  rw [violations, rules_append, Rule.rules_lengthWithin, Rule.rules_lengthWithin]
  exact hall.of_sublist ((ite_sublist _ _).append (ite_sublist _ _))

end StatusCallback

namespace SubmitAnswer

inductive Breaks (p : SubmitAnswer) : String → RuleCode → Prop
  | questionId : p.questionId < 1 → Breaks p "question_id" .range
  | studentId : p.studentId < 1 → Breaks p "student_id" .range
  | tooLong : 1000 < p.answer.toList.length → Breaks p "answer" .length
  | blank : (∀ c ∈ p.answer.toList, Text.isBlank c = true) → Breaks p "answer" .mustNotBeBlank

theorem mem_rules_iff {p : SubmitAnswer} {field : String} {code : RuleCode} :
    (field, code) ∈ rules p.violations ↔ p.Breaks field code := by
  simp only [violations, Rule.textUpTo, rules_append, Rule.rules_lengthWithin, Rule.rules_notBlank,
    Rule.rules_positive, List.mem_append, List.mem_ite_nil_right, Text.isBlankText_iff,
    List.mem_singleton,
    Prod.mk.injEq]
  constructor
  · rintro (((⟨h, rfl, rfl⟩ | ⟨h, rfl, rfl⟩) | ⟨h, rfl, rfl⟩) | ⟨h, rfl, rfl⟩)
    · exact .tooLong (h.resolve_left (Nat.not_lt_zero _))
    · exact .blank h
    · exact .questionId h
    · exact .studentId h
  · rintro (h | h | h | h)
    · exact .inl (.inr ⟨h, rfl, rfl⟩)
    · exact .inr ⟨h, rfl, rfl⟩
    · exact .inl (.inl (.inl ⟨.inr h, rfl, rfl⟩))
    · exact .inl (.inl (.inr ⟨h, rfl, rfl⟩))

theorem isReport_rules (p : SubmitAnswer) : IsReport (rules p.violations) := by
  have hall : IsReport
      [("answer", .length), ("answer", .mustNotBeBlank), ("question_id", .range),
        ("student_id", .range)] :=
    ⟨by decide +kernel, by decide, by decide, by decide, by decide +kernel⟩
  simp only [violations, Rule.textUpTo, rules_append, Rule.rules_lengthWithin, Rule.rules_notBlank,
    Rule.rules_positive]
  exact hall.of_sublist
    ((((ite_sublist _ _).append (ite_sublist _ _)).append (ite_sublist _ _)).append
    (ite_sublist _ _))

end SubmitAnswer

namespace CreateQuestion

/-- The options break one rule at most: there are too many of them, or the first that offends does
so. -/
inductive BreaksField (p : CreateQuestion) : String → RuleCode → Prop
  | courseId : p.courseId < 1 → BreaksField p "course_id" .range
  | contentTooLong : 4000 < p.content.toList.length → BreaksField p "content" .length
  | contentBlank : (∀ c ∈ p.content.toList, Text.isBlank c = true) →
    BreaksField p "content" .mustNotBeBlank
  | answerTooLong : 1000 < p.answer.toList.length → BreaksField p "answer" .length
  | answerBlank : (∀ c ∈ p.answer.toList, Text.isBlank c = true) →
    BreaksField p "answer" .mustNotBeBlank
  | tooManyOptions : 26 < p.options.length → BreaksField p "options" .tooManyOptions
  | badOption {code : RuleCode} : p.options.length ≤ 26 → Rule.FirstOffence [] p.options code →
    BreaksField p "options" code

/-- The payload as a whole is looked at only if no field breaks a rule. -/
inductive Breaks (p : CreateQuestion) : String → RuleCode → Prop
  | field {field : String} {code : RuleCode} : p.BreaksField field code → Breaks p field code
  | whole {code : RuleCode} : (∀ field code, ¬p.BreaksField field code) → p.BreaksWhole code →
    Breaks p "__all__" code

variable {p : CreateQuestion} {field : String} {code : RuleCode}

theorem mem_rules_fieldViolations_iff :
    (field, code) ∈ rules p.fieldViolations ↔ p.BreaksField field code := by
  simp only [fieldViolations, Rule.textUpTo, rules_append, Rule.rules_lengthWithin,
    Rule.rules_notBlank, Rule.rules_positive, Rule.rules_options, List.mem_append,
    List.mem_ite_nil_right, Text.isBlankText_iff,
    List.mem_singleton, List.mem_map, Option.mem_toList, Rule.optionsFault_eq_some_iff,
    Prod.mk.injEq]
  constructor
  · rintro ((((⟨h, rfl, rfl⟩ | ⟨h, rfl, rfl⟩) | (⟨h, rfl, rfl⟩ | ⟨h, rfl, rfl⟩)) | ⟨h, rfl, rfl⟩) |
      ⟨_, ⟨h, rfl⟩ | ⟨hfew, h⟩, rfl, rfl⟩)
    · exact .answerTooLong (h.resolve_left (Nat.not_lt_zero _))
    · exact .answerBlank h
    · exact .contentTooLong (h.resolve_left (Nat.not_lt_zero _))
    · exact .contentBlank h
    · exact .courseId h
    · exact .tooManyOptions h
    · exact .badOption hfew h
  · rintro (h | h | h | h | h | h | ⟨hfew, h⟩)
    · exact .inl (.inr ⟨h, rfl, rfl⟩)
    · exact .inl (.inl (.inr (.inl ⟨.inr h, rfl, rfl⟩)))
    · exact .inl (.inl (.inr (.inr ⟨h, rfl, rfl⟩)))
    · exact .inl (.inl (.inl (.inl ⟨.inr h, rfl, rfl⟩)))
    · exact .inl (.inl (.inl (.inr ⟨h, rfl, rfl⟩)))
    · exact .inr ⟨_, .inl ⟨h, rfl⟩, rfl, rfl⟩
    · exact .inr ⟨_, .inr ⟨hfew, h⟩, rfl, rfl⟩

theorem breaks_iff : p.Breaks field code ↔
    p.BreaksField field code ∨ (∀ f c, ¬p.BreaksField f c) ∧ field = wholePayload ∧
    p.BreaksWhole code := by
  constructor
  · intro h
    cases h with
    | field h => exact .inl h
    | whole hnone h => exact .inr ⟨hnone, rfl, h⟩
  · rintro (h | ⟨hnone, rfl, h⟩)
    · exact .field h
    · exact .whole hnone h

theorem mem_rules_iff : (field, code) ∈ rules p.violations ↔ p.Breaks field code := by
  simp only [breaks_iff, ← mem_rules_fieldViolations_iff, ← shapeFault_eq_some_iff]
  unfold violations
  cases hfields : p.fieldViolations with
  | nil =>
    cases p.shapeFault with
    | none => simp [rules]
    | some code' => simp [rules, eq_comm]
  | cons v vs =>
    refine ⟨.inl, ?_⟩
    rintro (h | ⟨hnone, _⟩)
    · exact h
    · exact absurd List.mem_cons_self (hnone v.field v.code)

theorem isReport_rules_fieldViolations (p : CreateQuestion) :
    IsReport (rules p.fieldViolations) := by
  have hall : ∀ code, IsReport [("answer", .length), ("answer", .mustNotBeBlank),
      ("content", .length), ("content", .mustNotBeBlank), ("course_id", .range),
      ("options", code)] := by
    intro code
    cases code <;> exact ⟨by decide +kernel, by decide, by decide, by decide, by decide +kernel⟩
  obtain ⟨code, hoptions⟩ : ∃ code,
      ((Rule.optionsFault p.options).toList.map fun code => ("options", code)).Sublist
      [("options", code)] := by
    cases Rule.optionsFault p.options with
    | none => exact ⟨.range, List.nil_sublist _⟩
    | some code => exact ⟨code, List.Sublist.refl _⟩
  simp only [fieldViolations, Rule.textUpTo, rules_append, Rule.rules_lengthWithin,
    Rule.rules_notBlank, Rule.rules_positive, Rule.rules_options]
  exact (hall code).of_sublist (((((ite_sublist _ _).append (ite_sublist _ _)).append
    ((ite_sublist _ _).append (ite_sublist _ _))).append (ite_sublist _ _)).append hoptions)

theorem isReport_rules (p : CreateQuestion) : IsReport (rules p.violations) := by
  have hwhole : ∀ code, IsReport [(wholePayload, code)] := by
    intro code
    cases code <;> exact ⟨by decide +kernel, by decide, by decide, by decide, by decide +kernel⟩
  have hfields := isReport_rules_fieldViolations p
  unfold violations
  cases hnone : p.fieldViolations with
  | nil =>
    cases p.shapeFault with
    | none => exact (hwhole .range).of_sublist (List.nil_sublist _)
    | some code => exact hwhole code
  | cons v vs =>
    rw [hnone] at hfields
    exact hfields

end CreateQuestion

end LiveLesson
