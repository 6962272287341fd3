import LiveLesson.Proofs.Quiz.Rules
import Mathlib.Tactic.ByContra

/-!
How answers state options. An answer to a single choice states one option, and an answer to a
multiple choice joins those that it states by commas. So every selection of options that hold no
comma themselves is accepted as an answer and read back as it was made, whatever blanks stand around
its pieces.
-/

namespace LiveLesson

namespace CreateQuestion

/-- The options that an answer states: its pieces between commas, without the blanks around them. -/
def stated (answer : String) : List String :=
  (answer.toList.splitOn ',').map fun piece => Text.trim (String.ofList piece)

def withAnswer (p : CreateQuestion) (answer : String) : CreateQuestion := { p with answer }

/-- With this answer, nothing is reported of the question but what its content and its course are
reported for. -/
def Takes (p : CreateQuestion) (answer : String) : Prop :=
  (p.withAnswer answer).violations = Rule.textUpTo "content" 4000 p.content ++
    Rule.positive "course_id" p.courseId

variable {p : CreateQuestion} {answer : String}

theorem takes_of_fitsType (hoptions : Rule.optionsFault p.options = none)
    (hlength : answer.toList.length ≤ 1000) (hblank : ∃ c ∈ answer.toList, Text.isBlank c = false)
    (htype : (p.withAnswer answer).FitsType) : p.Takes answer := by
  have hanswer : Rule.textUpTo "answer" 1000 answer = [] :=
    Rule.textUpTo_eq_nil_iff.2 ⟨hlength, hblank⟩
  have hfields : (p.withAnswer answer).fieldViolations =
      Rule.textUpTo "content" 4000 p.content ++ Rule.positive "course_id" p.courseId := by
    simp only [fieldViolations, withAnswer, hanswer, Rule.options_eq_nil_iff.2 hoptions,
      List.nil_append, List.append_nil]
  rw [Takes, ← hfields, violations, shapeFault_eq_none_iff.2 htype]
  cases (p.withAnswer answer).fieldViolations <;> rfl

theorem comma_of_trim_eq {s t : String} (h : Text.trim s = Text.trim t) :
    ',' ∈ s.toList ↔ ',' ∈ t.toList := by
  have hcomma : Text.isBlank ',' = false := by decide
  rw [← Text.mem_trimChars_iff hcomma s.toList, ← Text.mem_trimChars_iff hcomma t.toList,
    Text.trim_eq_trim_iff.1 h]

variable {chosen pieces : List String}

theorem mem_map_trim_of_subset (hpieces : pieces.map Text.trim = chosen.map Text.trim)
    {piece : String} (h : piece ∈ pieces) : ∃ o ∈ chosen, Text.trim o = Text.trim piece :=
  List.mem_map.1 (hpieces ▸ List.mem_map_of_mem h)

theorem stated_intercalate (hne : pieces ≠ []) (hcomma : ∀ piece ∈ pieces, ',' ∉ piece.toList) :
    stated (",".intercalate pieces) = pieces.map Text.trim := by
  have hsplit : (",".intercalate pieces).toList.splitOn ',' = pieces.map String.toList := by
    rw [String.toList_intercalate]
    refine List.splitOn_intercalate ',' (fun piece hpiece => ?_) (by simpa using hne)
    obtain ⟨s, hs, rfl⟩ := List.mem_map.1 hpiece
    exact hcomma s hs
  rw [stated, hsplit, List.map_map]
  simp [Function.comp_def]

theorem comma_notMem_of_mem_stated {s : String} (h : s ∈ stated answer) : ',' ∉ s.toList := by
  obtain ⟨piece, hpiece, rfl⟩ := List.mem_map.1 h
  rw [Text.toList_trim, String.toList_ofList, Text.mem_trimChars_iff (by decide)]
  rw [← Text.split_eq_splitOn] at hpiece
  exact Text.notMem_of_mem_split hpiece

/-- A selection is read back from its pieces exactly if none of its options holds a comma. -/
theorem stated_eq_iff (hne : chosen ≠ []) (hpieces : pieces.map Text.trim = chosen.map Text.trim) :
    stated (",".intercalate pieces) = chosen.map Text.trim ↔ ∀ o ∈ chosen, ',' ∉ o.toList := by
  constructor
  · intro hstated o ho
    have hmem : Text.trim o ∈ stated (",".intercalate pieces) := hstated ▸ List.mem_map_of_mem ho
    have hcomma := comma_notMem_of_mem_stated hmem
    rwa [Text.toList_trim, Text.mem_trimChars_iff (by decide)] at hcomma
  · intro hcomma
    have hsome : pieces ≠ [] := by
      rintro rfl
      exact hne (List.map_eq_nil_iff.1 hpieces.symm)
    rw [stated_intercalate hsome fun piece hpiece => ?_, hpieces]
    obtain ⟨o, ho, htrim⟩ := mem_map_trim_of_subset hpieces hpiece
    exact fun hmem => hcomma o ho ((comma_of_trim_eq htrim).2 hmem)

theorem fitsType_of_stated (htype : p.type = .multipleChoice) (hmany : 2 ≤ p.options.length)
    (hstated : ∀ s ∈ stated answer, s ≠ "" ∧ s ∈ p.options.map Text.trim) :
    (p.withAnswer answer).FitsType := by
  have hfits : 2 ≤ p.options.length ∧ ∀ piece ∈ answer.toList.splitOn ',',
      Text.trim (String.ofList piece) ≠ "" ∧
      Text.trim (String.ofList piece) ∈ p.options.map Text.trim :=
    ⟨hmany, fun piece hpiece => hstated _ (List.mem_map_of_mem hpiece)⟩
  simpa only [FitsType, withAnswer, htype] using hfits

theorem exists_notBlank_of_stated {s : String} (h : s ∈ stated answer) (hs : s ≠ "") :
    ∃ c ∈ answer.toList, Text.isBlank c = false := by
  by_contra hnone
  have hblanks : ∀ c ∈ answer.toList, Text.isBlank c = true := by simpa using hnone
  have hpieces : answer.toList.splitOn ',' = [answer.toList] := by
    rw [← Text.split_eq_splitOn]
    exact Text.split_of_notMem fun hcomma => absurd (hblanks _ hcomma) (by decide)
  rw [stated, hpieces, List.map_singleton, List.mem_singleton, String.ofList_toList] at h
  rw [h] at hs
  obtain ⟨c, hc, hblank⟩ := Text.trim_ne_empty_iff.1 hs
  rw [hblanks c hc] at hblank
  cases hblank

/-- Every selection of options can be given as the answer to a choice among at least two of them, if
the options keep their rule. To a single choice, each option is taken as the answer, with any blanks
around it. To a multiple choice, every selection that is not empty is taken, its options joined by
commas with any blanks around each, unless one of them holds a comma; and the selections that are
read back from their answer as they were made are exactly those without a comma. An answer has at
most 1000 characters. -/
theorem selections_stated (p : CreateQuestion) (hoptions : Rule.optionsFault p.options = none)
    (hmany : 2 ≤ p.options.length) :
    (p.type = .singleChoice → ∀ o ∈ p.options, ∀ answer : String, Text.trim answer = Text.trim o →
      answer.toList.length ≤ 1000 → p.Takes answer) ∧
    (p.type = .multipleChoice → ∀ chosen ⊆ p.options, chosen ≠ [] → ∀ pieces : List String,
      pieces.map Text.trim = chosen.map Text.trim → (",".intercalate pieces).toList.length ≤ 1000 →
      ((∀ o ∈ chosen, ',' ∉ o.toList) → p.Takes (",".intercalate pieces)) ∧
      (stated (",".intercalate pieces) = chosen.map Text.trim ↔ ∀ o ∈ chosen, ',' ∉ o.toList)) := by
  obtain ⟨_, hproper, _⟩ := (Rule.optionsFault_eq_none_iff p.options).1 hoptions
  refine ⟨fun htype o ho answer htrim hlength => ?_,
    fun htype chosen hchosen hne pieces hpieces hlength => ?_⟩
  · have hsome : Text.trim answer ≠ "" := htrim ▸ (hproper o ho).1
    refine takes_of_fitsType hoptions hlength (Text.trim_ne_empty_iff.1 hsome) ?_
    have hfits : 2 ≤ p.options.length ∧ Text.trim answer ∈ p.options.map Text.trim :=
      ⟨hmany, htrim ▸ List.mem_map_of_mem ho⟩
    simpa only [FitsType, withAnswer, htype] using hfits
  · refine ⟨fun hcomma => ?_, stated_eq_iff hne hpieces⟩
    have hstated := (stated_eq_iff hne hpieces).2 hcomma
    have hdrawn : ∀ s ∈ stated (",".intercalate pieces), s ≠ "" ∧ s ∈ p.options.map Text.trim := by
      intro s hs
      obtain ⟨o, ho, rfl⟩ := List.mem_map.1 (hstated ▸ hs)
      exact ⟨(hproper o (hchosen ho)).1, List.mem_map_of_mem (hchosen ho)⟩
    obtain ⟨s, hs⟩ := List.exists_mem_of_ne_nil (stated (",".intercalate pieces))
      (by simpa [hstated] using hne)
    exact takes_of_fitsType hoptions hlength (exists_notBlank_of_stated hs (hdrawn s hs).1)
      (fitsType_of_stated htype hmany hdrawn)

/-- Both primes are chosen, with blanks around them. -/
theorem primes_stated :
    (CreateQuestion.mk 1 .multipleChoice "Which are primes?" ["2", " 4 ", "5"] "").Takes " 2 ,\t5" ∧
      stated " 2 ,\t5" = ["2", "5"] := by
  have h := (selections_stated ⟨1, .multipleChoice, "Which are primes?", ["2", " 4 ", "5"], ""⟩
    (by decide) (by decide)).2
    rfl ["2", "5"] (by decide) (by decide) [" 2 ", "\t5"] (by decide) (by decide)
  exact ⟨h.1 (by decide), h.2.2 (by decide)⟩

/-- An option that holds a comma may be in the list, but as the answer to a multiple choice it is
taken for two options. So it is refused, although it is one of the options; and where its two halves
are options as well, it is accepted but states these. -/
theorem comma_option_not_stated :
    Rule.optionsFault ["a,b", "c"] = none ∧
      (CreateQuestion.mk 1 .multipleChoice "q" ["a,b", "c"] "a,b").violations =
        [⟨Violation.wholePayload, .choiceAnswerNotAnOption, none⟩] ∧
      Rule.optionsFault ["a,b", "a", "b"] = none ∧
      (CreateQuestion.mk 1 .multipleChoice "q" ["a,b", "a", "b"] "a,b").violations = [] ∧
      stated "a,b" = ["a", "b"] := by
  decide

end CreateQuestion

end LiveLesson
