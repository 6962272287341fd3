import LiveLesson.Proofs.Text.Trim
import LiveLesson.Validation

/-!
What the rules ask for. Each rule on a field is kept, or broken in one way; of a list of options,
the first one that offends decides in which.
-/

namespace LiveLesson

namespace Text

theorem toList_trim (s : String) : (trim s).toList = trimChars s.toList := String.toList_ofList

theorem trim_eq_empty_iff {s : String} : trim s = "" ↔ trimChars s.toList = [] :=
  String.ofList_inj

theorem trim_trim (s : String) : trim (trim s) = trim s := by
  rw [trim_eq_trim_iff, toList_trim, trimChars_trimChars]

theorem length_trim_le (s : String) : (trim s).toList.length ≤ s.toList.length := by
  rw [toList_trim]
  exact length_trimChars_le s.toList

theorem trim_ne_empty_iff {s : String} : trim s ≠ "" ↔ ∃ c ∈ s.toList, isBlank c = false := by
  rw [Ne, trim_eq_empty_iff, trimChars_eq_nil_iff]
  simp

theorem isBlankText_iff {s : String} : isBlankText s = true ↔ ∀ c ∈ s.toList, isBlank c = true :=
  List.all_eq_true

theorem mem_map_trim_iff {s : String} {ts : List String} :
    trim s ∈ ts.map trim ↔ trimChars s.toList ∈ ts.map fun t => trimChars t.toList := by
  simp only [List.mem_map, trim_eq_trim_iff]

end Text

namespace Rule

inductive Offends (before : List String) (o : String) : RuleCode → Prop
  | blank : Text.trim o = "" → Offends before o .optionBlank
  | tooLong : Text.trim o ≠ "" → 500 < (Text.trim o).toList.length → Offends before o .optionTooLong
  | duplicate : Text.trim o ≠ "" → (Text.trim o).toList.length ≤ 500 →
    Text.trim o ∈ before.map Text.trim →
    Offends before o .optionDuplicate

/-- The first option that offends does so in this way. -/
def FirstOffence (before os : List String) (code : RuleCode) : Prop :=
  ∃ front o back, os = front ++ o :: back ∧ Offends (before ++ front) o code ∧
    ∀ front' o' back', front = front' ++ o' :: back' → ∀ code', ¬Offends (before ++ front') o' code'

variable {before os : List String} {o : String} {code : RuleCode}

theorem not_offends_iff : (∀ code, ¬Offends before o code) ↔
    Text.trim o ≠ "" ∧ (Text.trim o).toList.length ≤ 500 ∧ Text.trim o ∉ before.map Text.trim := by
  constructor
  · intro h
    have hne : Text.trim o ≠ "" := fun hblank => h _ (.blank hblank)
    have hle : (Text.trim o).toList.length ≤ 500 :=
      Nat.le_of_not_lt fun hlong => h _ (.tooLong hne hlong)
    exact ⟨hne, hle, fun hmem => h _ (.duplicate hne hle hmem)⟩
  · rintro ⟨hne, hle, hnew⟩ code hoffends
    cases hoffends with
    | blank hblank => exact hne hblank
    | tooLong _ hlong => exact Nat.not_lt.2 hle hlong
    | duplicate _ _ hmem => exact hnew hmem

def seen (before : List String) : List (List Char) :=
  (before.map fun o => Text.trimChars o.toList).reverse

theorem seen_append (before : List String) (o : String) :
    seen (before ++ [o]) = Text.trimChars o.toList :: seen before := by
  simp [seen]

theorem contains_seen (before : List String) (o : String) :
    (seen before).contains (Text.trimChars o.toList) = true ↔
    Text.trim o ∈ before.map Text.trim := by
  rw [List.contains_iff_mem, seen, List.mem_reverse, Text.mem_map_trim_iff]

theorem firstOptionFault_cons (before : List String) (o : String) (os : List String) :
    firstOptionFault (seen before) (o :: os) =
      if Text.trim o = "" then some .optionBlank
      else if 500 < (Text.trim o).toList.length then some .optionTooLong
      else if Text.trim o ∈ before.map Text.trim then some .optionDuplicate
      else firstOptionFault (seen (before ++ [o])) os := by
  simp only [firstOptionFault, List.isEmpty_iff, contains_seen, maxOptionLength,
    Text.trim_eq_empty_iff, Text.toList_trim, seen_append]

theorem firstOptionFault_of_offends (h : Offends before o code) (os : List String) :
    firstOptionFault (seen before) (o :: os) = some code := by
  rw [firstOptionFault_cons]
  cases h with
  | blank hblank => rw [if_pos hblank]
  | tooLong hne hlong => rw [if_neg hne, if_pos hlong]
  | duplicate hne hle hmem => rw [if_neg hne, if_neg (Nat.not_lt.2 hle), if_pos hmem]

theorem firstOptionFault_of_not_offends (h : ∀ code, ¬Offends before o code) (os : List String) :
    firstOptionFault (seen before) (o :: os) = firstOptionFault (seen (before ++ [o])) os := by
  obtain ⟨hne, hle, hnew⟩ := not_offends_iff.1 h
  rw [firstOptionFault_cons, if_neg hne, if_neg (Nat.not_lt.2 hle), if_neg hnew]

theorem firstOffence_cons_of_offends (h : Offends before o code) (os : List String)
    {code' : RuleCode} : FirstOffence before (o :: os) code' ↔ code = code' := by
  constructor
  · rintro ⟨front, o', back, hsplit, hoffends, hnone⟩
    cases front with
    | nil =>
      obtain ⟨rfl, rfl⟩ := List.cons_eq_cons.1 hsplit
      rw [List.append_nil] at hoffends
      have hsame :=
        (firstOptionFault_of_offends h []).symm.trans (firstOptionFault_of_offends hoffends [])
      exact Option.some.inj hsame
    | cons o₁ front =>
      obtain ⟨rfl, rfl⟩ := List.cons_eq_cons.1 hsplit
      exact absurd (by rwa [List.append_nil]) (hnone [] o front rfl code)
  · rintro rfl
    exact ⟨[], o, os, rfl, by rwa [List.append_nil], by simp⟩

theorem firstOffence_cons_of_not_offends (h : ∀ code, ¬Offends before o code) (os : List String) :
    FirstOffence before (o :: os) code ↔ FirstOffence (before ++ [o]) os code := by
  constructor
  · rintro ⟨front, o', back, hsplit, hoffends, hnone⟩
    cases front with
    | nil =>
      obtain ⟨rfl, rfl⟩ := List.cons_eq_cons.1 hsplit
      exact absurd hoffends (by simpa using h code)
    | cons o₁ front =>
      obtain ⟨rfl, rfl⟩ := List.cons_eq_cons.1 hsplit
      refine ⟨front, o', back, rfl, by simpa using hoffends,
        fun front' o'' back' hfront code' => ?_⟩
      simpa using hnone (o :: front') o'' back' (congrArg (o :: ·) hfront) code'
  · rintro ⟨front, o', back, rfl, hoffends, hnone⟩
    refine ⟨o :: front, o', back, rfl, by simpa using hoffends,
      fun front' o'' back' hfront code' => ?_⟩
    cases front' with
    | nil =>
      obtain ⟨rfl, rfl⟩ := List.cons_eq_cons.1 hfront
      simpa using h code'
    | cons o₁ front' =>
      obtain ⟨rfl, hrest⟩ := List.cons_eq_cons.1 hfront
      simpa using hnone front' o'' back' hrest code'

/-- The search for a bad option finds the first one that offends. -/
theorem firstOptionFault_eq_some_iff (before os : List String) :
    firstOptionFault (seen before) os = some code ↔ FirstOffence before os code := by
  induction os generalizing before with
  | nil => simp [firstOptionFault, FirstOffence]
  | cons o os ih =>
    by_cases h : ∃ code', Offends before o code'
    · obtain ⟨code', hoffends⟩ := h
      rw [firstOptionFault_of_offends hoffends, firstOffence_cons_of_offends hoffends,
        Option.some.injEq]
    · have hnone : ∀ code', ¬Offends before o code' := by simpa using h
      rw [firstOptionFault_of_not_offends hnone, firstOffence_cons_of_not_offends hnone, ih]

theorem firstOptionFault_eq_none_iff (before os : List String) :
    firstOptionFault (seen before) os = none ↔
    (∀ o ∈ os, Text.trim o ≠ "" ∧ (Text.trim o).toList.length ≤ 500) ∧ (os.map Text.trim).Nodup ∧
      ∀ o ∈ os, Text.trim o ∉ before.map Text.trim := by
  induction os generalizing before with
  | nil => simp [firstOptionFault]
  | cons o os ih =>
    by_cases h : ∃ code, Offends before o code
    · obtain ⟨code, hoffends⟩ := h
      rw [firstOptionFault_of_offends hoffends]
      refine iff_of_false (by simp) fun ⟨hall, _, hnew⟩ => ?_
      obtain ⟨hne, hle⟩ := hall o List.mem_cons_self
      exact not_offends_iff.2 ⟨hne, hle, hnew o List.mem_cons_self⟩ code hoffends
    · have hnone : ∀ code, ¬Offends before o code := by simpa using h
      obtain ⟨hne, hle, hnew⟩ := not_offends_iff.1 hnone
      have happart : (∀ o' ∈ os, Text.trim o' ∉ (before ++ [o]).map Text.trim) ↔
          (∀ o' ∈ os, Text.trim o' ∉ before.map Text.trim) ∧ Text.trim o ∉ os.map Text.trim := by
        simp only [List.map_append, List.map_singleton, List.mem_append, List.mem_singleton, not_or,
          List.mem_map, not_exists, not_and]
        exact ⟨fun hrest => ⟨fun o' ho' => (hrest o' ho').1, fun o' ho' => (hrest o' ho').2⟩,
          fun hrest o' ho' => ⟨hrest.1 o' ho', hrest.2 o' ho'⟩⟩
      rw [firstOptionFault_of_not_offends hnone, ih, happart, List.map_cons, List.nodup_cons]
      constructor
      · rintro ⟨hall, hnodup, hrest, hout⟩
        exact ⟨List.forall_mem_cons.2 ⟨⟨hne, hle⟩, hall⟩, ⟨hout, hnodup⟩,
          List.forall_mem_cons.2 ⟨hnew, hrest⟩⟩
      · rintro ⟨hall, ⟨hout, hnodup⟩, hrest⟩
        exact ⟨(List.forall_mem_cons.1 hall).2, hnodup, (List.forall_mem_cons.1 hrest).2, hout⟩

/-- A list of options keeps its rule if there are not too many, each of proper length and no two the
same. -/
theorem optionsFault_eq_none_iff (os : List String) : optionsFault os = none ↔
    os.length ≤ 26 ∧ (∀ o ∈ os, Text.trim o ≠ "" ∧ (Text.trim o).toList.length ≤ 500) ∧
    (os.map Text.trim).Nodup := by
  have hfirst : firstOptionFault [] os = none ↔ _ := firstOptionFault_eq_none_iff [] os
  by_cases hmany : 26 < os.length
  · rw [optionsFault, maxOptions, if_pos hmany]
    exact iff_of_false (by simp) fun h => Nat.not_le.2 hmany h.1
  · rw [optionsFault, maxOptions, if_neg hmany, hfirst]
    simp [Nat.le_of_not_lt hmany]

theorem optionsFault_eq_some_iff (os : List String) : optionsFault os = some code ↔
    (26 < os.length ∧ code = .tooManyOptions) ∨ (os.length ≤ 26 ∧ FirstOffence [] os code) := by
  have hfirst : firstOptionFault [] os = some code ↔ _ := firstOptionFault_eq_some_iff [] os
  by_cases hmany : 26 < os.length
  · rw [optionsFault, maxOptions, if_pos hmany, Option.some.injEq]
    simp [hmany, Nat.not_le.2 hmany, eq_comm]
  · rw [optionsFault, maxOptions, if_neg hmany, hfirst]
    simp [hmany, Nat.le_of_not_lt hmany]

theorem positive_eq_nil_iff {field : String} {n : Int} : positive field n = [] ↔ 1 ≤ n := by
  simp [positive]

theorem lengthWithin_eq_nil_iff {field s : String} {least greatest : Nat} :
    lengthWithin field least greatest s = [] ↔ least ≤ s.toList.length ∧
    s.toList.length ≤ greatest := by
  simp [lengthWithin]

theorem notBlank_eq_nil_iff {field s : String} :
    notBlank field s = [] ↔ ∃ c ∈ s.toList, Text.isBlank c = false := by
  simp [notBlank, Text.isBlankText]

theorem textUpTo_eq_nil_iff {field s : String} {greatest : Nat} : textUpTo field greatest s = [] ↔
    s.toList.length ≤ greatest ∧ ∃ c ∈ s.toList, Text.isBlank c = false := by
  rw [textUpTo, List.append_eq_nil_iff, lengthWithin_eq_nil_iff, notBlank_eq_nil_iff]
  simp

theorem options_eq_nil_iff {field : String} {os : List String} :
    options field os = [] ↔ optionsFault os = none := by
  unfold options
  cases optionsFault os <;> simp

end Rule

def Violation.rules (vs : List Violation) : List (String × RuleCode) :=
  vs.map fun v => (v.field, v.code)

def RuleCode.entry (r : String × RuleCode) : String := r.1 ++ ": " ++ r.2.text

namespace Violation

theorem map_text (vs : List Violation) : vs.map text = (rules vs).map RuleCode.entry := by
  rw [rules, List.map_map]
  rfl

theorem rules_append (vs ws : List Violation) : rules (vs ++ ws) = rules vs ++ rules ws :=
  List.map_append

end Violation

namespace Rule

open Violation

variable {field s : String}

theorem rules_positive (n : Int) :
    rules (positive field n) = if n < 1 then [(field, .range)] else [] := by
  unfold positive
  split <;> split <;> first | rfl | omega

theorem rules_lengthWithin (least greatest : Nat) : rules (lengthWithin field least greatest s) =
    if s.toList.length < least ∨ greatest < s.toList.length then [(field, .length)] else [] := by
  have hiff : (least ≤ s.toList.length && s.toList.length ≤ greatest) = true ↔
      ¬(s.toList.length < least ∨ greatest < s.toList.length) := by
    simp
  unfold lengthWithin
  by_cases h : s.toList.length < least ∨ greatest < s.toList.length
  · rw [if_neg fun h' => hiff.1 h' h, if_pos h]
    rfl
  · rw [if_pos (hiff.2 h), if_neg h]
    rfl

theorem rules_notBlank :
    rules (notBlank field s) = if Text.isBlankText s = true then [(field, .mustNotBeBlank)]
      else [] := by
  unfold notBlank
  split <;> rfl

theorem rules_options (os : List String) :
    rules (options field os) = (optionsFault os).toList.map (field, ·) := by
  unfold options
  cases optionsFault os <;> rfl

end Rule

end LiveLesson
