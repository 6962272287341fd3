import LiveLesson.Proofs.Text.Integer
import LiveLesson.Proofs.Text.Utf8

/-!
Integers read in words of 64 bits. A machine keeps the digits it has read in a word, where products,
sums and differences wrap around; it looks for overflow at every digit, unless there are too few of
them for any. No step that it goes on with wraps around, and it answers what is answered in the
integers.
-/

namespace LiveLesson.Text.Word

/-- One more digit behind those that a word stands for. -/
structure Step where
  negative : Bool
  acc : Int64
  digit : Nat

namespace Step

def product (s : Step) : Int64 := s.acc * 10

def result (s : Step) : Int64 :=
  if s.negative then s.product - Int64.ofNat s.digit else s.product + Int64.ofNat s.digit

/-- One of the two operations leaves the range of a word. -/
def overflows (s : Step) : Bool :=
  s.acc.toBitVec.smulOverflow 10 ||
    if s.negative then s.product.toBitVec.ssubOverflow (BitVec.ofNat 64 s.digit)
    else s.product.toBitVec.saddOverflow (BitVec.ofNat 64 s.digit)

/-- Neither operation wraps around. -/
structure IsExact (s : Step) : Prop where
  product : s.product.toInt = s.acc.toInt * 10
  result : s.result.toInt = if s.negative then s.acc.toInt * 10 - s.digit
    else s.acc.toInt * 10 + s.digit

end Step

/-- What a reading comes to, and the steps that it went on with. -/
structure Reading where
  outcome : Except IntegerError Int64
  steps : List Step

def readDigits (checked negative : Bool) : Int64 → List Char → Reading
  | acc, [] => ⟨.ok acc, []⟩
  | acc, c :: cs =>
    match digit? c with
    | none => ⟨.error .invalidDigit, []⟩
    | some d =>
      let step : Step := ⟨negative, acc, d⟩
      if checked && step.overflows then ⟨.error (if negative then .tooSmall else .tooLarge), []⟩
      else
        let rest := readDigits checked negative step.result cs
        { rest with steps := step :: rest.steps }

/-- So many bytes of digits are read without a look at overflow. -/
def maxUnchecked : Nat := 15

def read (cs : List Char) : Reading :=
  let cut := cutSign cs
  if cs.isEmpty then ⟨.error .empty, []⟩
  else if cut.2.isEmpty then ⟨.error .invalidDigit, []⟩
  else readDigits (maxUnchecked < (String.ofList cut.2).utf8ByteSize) cut.1 0 cut.2

variable {s : Step} {k : Nat}

theorem toInt_digit {d : Nat} (hd : d < 10) : (BitVec.ofNat 64 d).toInt = d := by
  rw [BitVec.toInt_ofNat', Int.bmod_eq_of_le] <;> omega

theorem contains_signed_iff {n : Int} :
    (Range.signed 64).Contains n ↔ -2 ^ 63 ≤ n ∧ n < 2 ^ 63 := by
  have hend : (Nat.pow 2 63 : Int) = 2 ^ 63 := by decide
  change -(Nat.pow 2 63 : Int) ≤ n ∧ n ≤ (Nat.pow 2 63 : Int) - 1 ↔ _
  rw [hend]
  omega

theorem signedValue_product (negative : Bool) (k : Nat) :
    signedValue negative k * 10 = signedValue negative (10 * k) := by
  simpa using signedValue_next negative k 0

namespace Step

/-- The product overflows exactly if ten times the number has left the range. -/
theorem smulOverflow_eq_false_iff (hacc : s.acc.toInt = signedValue s.negative k) :
    s.acc.toBitVec.smulOverflow 10 = false ↔
    (Range.signed 64).Contains (signedValue s.negative (10 * k)) := by
  have hproduct : s.acc.toBitVec.toInt * (10 : BitVec 64).toInt =
      signedValue s.negative (10 * k) := by
    rw [← signedValue_product, ← hacc]
    rfl
  rw [contains_signed_iff, BitVec.smulOverflow, hproduct, Bool.or_eq_false_iff,
    decide_eq_false_iff_not, decide_eq_false_iff_not]
  omega

theorem toInt_product (hacc : s.acc.toInt = signedValue s.negative k)
    (h : (Range.signed 64).Contains (signedValue s.negative (10 * k))) :
    s.product.toInt = signedValue s.negative (10 * k) := by
  rw [← signedValue_product, ← hacc]
  exact BitVec.toInt_mul_of_not_smulOverflow
    (ne_true_of_eq_false ((smulOverflow_eq_false_iff hacc).2 h))

/-- Once the product is exact, the rest of the step overflows exactly if the number with the new
digit has left the range. -/
theorem rest_eq_false_iff (hproduct : s.product.toInt = signedValue s.negative (10 * k))
    (hd : s.digit < 10) :
    (if s.negative then s.product.toBitVec.ssubOverflow (BitVec.ofNat 64 s.digit)
      else s.product.toBitVec.saddOverflow (BitVec.ofNat 64 s.digit)) = false ↔
    (Range.signed 64).Contains (signedValue s.negative (10 * k + s.digit)) := by
  obtain ⟨negative, acc, d⟩ := s
  rw [contains_signed_iff]
  cases negative with
  | false =>
    have hsum : (product ⟨false, acc, d⟩).toBitVec.toInt + (BitVec.ofNat 64 d).toInt =
        signedValue false (10 * k + d) := by
      rw [toInt_digit hd]
      exact (congrArg (· + (d : Int)) hproduct).trans (by simp [signedValue])
    rw [if_neg Bool.false_ne_true, BitVec.saddOverflow, hsum, Bool.or_eq_false_iff,
      decide_eq_false_iff_not, decide_eq_false_iff_not]
    dsimp only
    omega
  | true =>
    have hdifference : (product ⟨true, acc, d⟩).toBitVec.toInt - (BitVec.ofNat 64 d).toInt =
        signedValue true (10 * k + d) := by
      rw [toInt_digit hd]
      exact (congrArg (· - (d : Int)) hproduct).trans (by simp [signedValue]; omega)
    rw [if_pos rfl, BitVec.ssubOverflow, hdifference, Bool.or_eq_false_iff, decide_eq_false_iff_not,
      decide_eq_false_iff_not]
    dsimp only
    omega

theorem toInt_result (hproduct : s.product.toInt = signedValue s.negative (10 * k))
    (hd : s.digit < 10)
    (h : (Range.signed 64).Contains (signedValue s.negative (10 * k + s.digit))) :
    s.result.toInt = signedValue s.negative (10 * k + s.digit) := by
  have hrest := (rest_eq_false_iff hproduct hd).2 h
  have hvalue : (if s.negative then s.product.toInt - s.digit else s.product.toInt + s.digit) =
      signedValue s.negative (10 * k + s.digit) := by
    rw [← signedValue_next, hproduct, signedValue_product]
  rw [← hvalue, result]
  by_cases hnegative : s.negative = true
  · rw [if_pos hnegative] at hrest
    rw [if_pos hnegative, if_pos hnegative, ← toInt_digit hd]
    exact BitVec.toInt_sub_of_not_ssubOverflow (ne_true_of_eq_false hrest)
  · rw [if_neg hnegative] at hrest
    rw [if_neg hnegative, if_neg hnegative, ← toInt_digit hd]
    exact BitVec.toInt_add_of_not_saddOverflow (ne_true_of_eq_false hrest)

theorem contains_product (h : (Range.signed 64).Contains
    (signedValue s.negative (10 * k + s.digit))) :
    (Range.signed 64).Contains (signedValue s.negative (10 * k)) :=
  contains_signedValue_of_le (contains_zero_signed 64) (Nat.le_add_right _ _) h

theorem overflows_eq_false_iff (hacc : s.acc.toInt = signedValue s.negative k) (hd : s.digit < 10) :
    s.overflows = false ↔ (Range.signed 64).Contains
      (signedValue s.negative (10 * k + s.digit)) := by
  rw [overflows, Bool.or_eq_false_iff, smulOverflow_eq_false_iff hacc]
  constructor
  · rintro ⟨hproduct, hrest⟩
    exact (rest_eq_false_iff (toInt_product hacc hproduct) hd).1 hrest
  · intro h
    exact ⟨contains_product h, (rest_eq_false_iff (toInt_product hacc (contains_product h)) hd).2 h⟩

theorem toInt_result_of_contains (hacc : s.acc.toInt = signedValue s.negative k) (hd : s.digit < 10)
    (h : (Range.signed 64).Contains (signedValue s.negative (10 * k + s.digit))) :
    s.result.toInt = signedValue s.negative (10 * k + s.digit) :=
  toInt_result (toInt_product hacc (contains_product h)) hd h

theorem isExact (hacc : s.acc.toInt = signedValue s.negative k) (hd : s.digit < 10)
    (h : (Range.signed 64).Contains (signedValue s.negative (10 * k + s.digit))) : s.IsExact where
  product := by rw [toInt_product hacc (contains_product h), hacc, signedValue_product]
  result := by rw [toInt_result_of_contains hacc hd h, hacc, signedValue_next]

end Step

variable {checked negative : Bool} {acc : Int64} {digits cs : List Char}

theorem few_next {d n room : Nat} (hd : d < 10) (hfew : (k + 1) * 10 ^ (n + 1) ≤ room) :
    (10 * k + d + 1) * 10 ^ n ≤ room := by
  calc (10 * k + d + 1) * 10 ^ n
      ≤ ((k + 1) * 10) * 10 ^ n := Nat.mul_le_mul_right _ (by omega)
    _ = (k + 1) * 10 ^ (n + 1) := by rw [Nat.pow_succ', Nat.mul_assoc]
    _ ≤ room := hfew

theorem contains_of_few {n : Nat} (hfew : (k + 1) * 10 ^ n ≤ 10 ^ maxUnchecked) :
    (Range.signed 64).Contains (signedValue negative k) := by
  have hk : k + 1 ≤ 10 ^ 15 :=
    Nat.le_trans (Nat.le_mul_of_pos_right _ (Nat.pow_pos (by decide))) hfew
  rw [contains_signed_iff]
  cases negative <;> simp only [signedValue, Bool.false_eq_true, if_true, if_false] <;> omega

theorem readDigits_eq (hacc : acc.toInt = signedValue negative k)
    (hfew : checked = true ∨ (k + 1) * 10 ^ digits.length ≤ 10 ^ maxUnchecked) :
    let reading := readDigits checked negative acc digits
    reading.outcome.map Int64.toInt = Text.readDigits (Range.signed 64) negative acc.toInt digits ∧
      ∀ step ∈ reading.steps, step.IsExact := by
  induction digits generalizing acc k with
  | nil => exact ⟨rfl, List.forall_mem_nil _⟩
  | cons c digits ih =>
    cases hdigit : digit? c with
    | none =>
      rw [readDigits, Text.readDigits, hdigit]
      exact ⟨rfl, List.forall_mem_nil _⟩
    | some d =>
      have hd := digit?_lt hdigit
      rw [hacc, readDigits_cons (contains_zero_signed 64) hdigit, readDigits, hdigit]
      dsimp only
      by_cases hnext : (Range.signed 64).Contains (signedValue negative (10 * k + d))
      · have hno : Step.overflows ⟨negative, acc, d⟩ = false :=
          (Step.overflows_eq_false_iff hacc hd).2 hnext
        have hresult := Step.toInt_result_of_contains (s := ⟨negative, acc, d⟩) hacc hd hnext
        obtain ⟨houtcome, hsteps⟩ := ih hresult (hfew.imp_right (few_next hd))
        rw [hno, Bool.and_false, if_neg Bool.false_ne_true, if_pos hnext]
        exact ⟨hresult ▸ houtcome, List.forall_mem_cons.2 ⟨Step.isExact hacc hd hnext, hsteps⟩⟩
      · have hoverflows : Step.overflows ⟨negative, acc, d⟩ = true :=
          Bool.of_not_eq_false fun hno => hnext ((Step.overflows_eq_false_iff hacc hd).1 hno)
        -- Where overflow is not looked at, there are too few digits for any.
        have hchecked : checked = true :=
          hfew.resolve_right fun hfew => hnext (contains_of_few (few_next hd hfew))
        rw [hoverflows, hchecked, Bool.and_true, if_pos rfl, if_neg hnext]
        exact ⟨rfl, List.forall_mem_nil _⟩

theorem readIntegerChars_eq {r : Range} (hleast : r.least < 0) (cs : List Char) :
    readIntegerChars r cs =
    if cs.isEmpty then .error .empty
    else if (cutSign cs).2.isEmpty then .error .invalidDigit
    else Text.readDigits r (cutSign cs).1 0 (cutSign cs).2 := by
  unfold readIntegerChars
  split
  · rfl
  · rfl
  · rfl
  · next digits hne =>
    obtain ⟨c, digits, rfl⟩ :=
      List.exists_cons_of_ne_nil (show digits ≠ [] by rintro rfl; exact hne rfl)
    rfl
  · next digits hne =>
    obtain ⟨c, digits, rfl⟩ :=
      List.exists_cons_of_ne_nil (show digits ≠ [] by rintro rfl; exact hne rfl)
    rw [if_pos hleast]
    rfl
  · next hempty _ _ hplus hminus =>
    obtain ⟨c, digits, rfl⟩ := List.exists_cons_of_ne_nil (show cs ≠ [] from hempty)
    have hsign : cutSign (c :: digits) = (false, c :: digits) := by
      unfold cutSign
      split
      · next heq => exact absurd heq (hminus _)
      · next heq => exact absurd heq (hplus _)
      · rfl
    rw [hsign]
    rfl

/-- What is read in words is what is read in the integers, and no step that the reading goes on with
wraps around. -/
theorem read_eq (cs : List Char) :
    (read cs).outcome.map Int64.toInt = readIntegerChars (Range.signed 64) cs ∧
    ∀ step ∈ (read cs).steps, step.IsExact := by
  rw [readIntegerChars_eq (by decide), read]
  split
  · exact ⟨rfl, List.forall_mem_nil _⟩
  · split
    · exact ⟨rfl, List.forall_mem_nil _⟩
    · refine readDigits_eq (k := 0) (by cases (cutSign cs).1 <;> rfl) ?_
      by_cases hmany : maxUnchecked < (String.ofList (cutSign cs).2).utf8ByteSize
      · exact .inl (decide_eq_true hmany)
      · have hbytes := Utf8.length_le_utf8ByteSize (String.ofList (cutSign cs).2)
        rw [String.toList_ofList] at hbytes
        right
        rw [Nat.zero_add, Nat.one_mul]
        exact Nat.pow_le_pow_right (by decide) (Nat.le_trans hbytes (Nat.le_of_not_lt hmany))

end LiveLesson.Text.Word
