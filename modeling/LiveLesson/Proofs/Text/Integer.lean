import LiveLesson.Text.Integer

/-!
What integers are read from. A range that has a zero is not left and entered again on the way
through the digits, so only the whole value counts; and what an integer is written as reads as that
integer.
-/

namespace LiveLesson.Text

variable {r : Range} {negative : Bool} {digits cs : List Char} {n : Int} {k : Nat}

/-- A value away from zero, downwards for `true`. -/
def signedValue (negative : Bool) (k : Nat) : Int := if negative then -(k : Int) else k

theorem digit?_eq_some_iff {c : Char} {d : Nat} :
    digit? c = some d ↔ c.isDigit = true ∧ d = c.toNat - '0'.toNat := by
  unfold digit?
  split
  · simp [*, eq_comm]
  · simp [*]

theorem digit?_lt {c : Char} {d : Nat} (h : digit? c = some d) : d < 10 := by
  obtain ⟨hdigit, rfl⟩ := digit?_eq_some_iff.1 h
  simp only [Char.isDigit, Bool.and_eq_true, decide_eq_true_eq, UInt32.le_iff_toNat_le] at hdigit
  change c.val.toNat - 48 < 10
  have hlast : c.val.toNat ≤ 57 := hdigit.2
  omega

theorem le_ofDigitChars (digits : List Char) (k : Nat) : k ≤ Nat.ofDigitChars 10 digits k := by
  induction digits generalizing k with
  | nil => exact Nat.le_refl k
  | cons c digits ih =>
    rw [Nat.ofDigitChars_cons]
    exact Nat.le_trans (by omega) (ih _)

theorem contains_signedValue_of_le (hzero : r.Contains 0) {m : Nat} (hle : k ≤ m)
    (h : r.Contains (signedValue negative m)) : r.Contains (signedValue negative k) := by
  unfold Range.Contains signedValue at *
  cases negative <;> simp only [Bool.false_eq_true, if_true, if_false] at * <;> omega

theorem signedValue_next (negative : Bool) (k d : Nat) :
    (if negative then signedValue negative k * 10 - d else signedValue negative k * 10 + d) =
      signedValue negative (10 * k + d) := by
  cases negative <;> simp only [signedValue, Bool.false_eq_true, if_true, if_false] <;> omega

theorem refused_of_not_contains {α : Type} (hzero : r.Contains 0)
    (h : ¬r.Contains (signedValue negative k)) (x : Except IntegerError α) :
    (if signedValue negative k < r.least then .error .tooSmall
      else if r.greatest < signedValue negative k then .error .tooLarge else x) =
    .error (if negative then .tooSmall else .tooLarge) := by
  unfold Range.Contains signedValue at *
  cases negative with
  | false =>
    simp only [Bool.false_eq_true, if_false] at *
    rw [if_neg (by omega), if_pos (by omega)]
  | true =>
    simp only [if_true] at *
    rw [if_pos (by omega)]

theorem readDigits_cons (hzero : r.Contains 0) {c : Char} {d : Nat}
    (hdigit : digit? c = some d) (k : Nat) (digits : List Char) :
    readDigits r negative (signedValue negative k) (c :: digits) =
      if r.Contains (signedValue negative (10 * k + d)) then
        readDigits r negative (signedValue negative (10 * k + d)) digits
      else .error (if negative then .tooSmall else .tooLarge) := by
  rw [readDigits, hdigit]
  dsimp only
  rw [signedValue_next]
  by_cases hnext : r.Contains (signedValue negative (10 * k + d))
  · rw [if_pos hnext, if_neg (Int.not_lt.2 hnext.1), if_neg (Int.not_lt.2 hnext.2)]
  · rw [if_neg hnext, refused_of_not_contains hzero hnext]

theorem readDigits_eq_ok_iff (hzero : r.Contains 0) (hk : r.Contains (signedValue negative k)) :
    readDigits r negative (signedValue negative k) digits = .ok n ↔
      (∀ c ∈ digits, c.isDigit = true) ∧ n = signedValue negative (Nat.ofDigitChars 10 digits k) ∧
      r.Contains n := by
  induction digits generalizing k with
  | nil =>
    simp only [readDigits, Nat.ofDigitChars_nil, Except.ok.injEq]
    constructor
    · rintro rfl
      exact ⟨nofun, rfl, hk⟩
    · exact fun h => h.2.1.symm
  | cons c digits ih =>
    rw [Nat.ofDigitChars_cons]
    cases hdigit : digit? c with
    | none =>
      rw [readDigits, hdigit]
      refine iff_of_false nofun fun h => ?_
      rw [digit?, if_pos (h.1 c List.mem_cons_self)] at hdigit
      cases hdigit
    | some d =>
      rw [readDigits_cons hzero hdigit]
      obtain ⟨hc, rfl⟩ := digit?_eq_some_iff.1 hdigit
      by_cases hnext : r.Contains (signedValue negative (10 * k + (c.toNat - '0'.toNat)))
      · rw [if_pos hnext, ih hnext, List.forall_mem_cons]
        simp only [hc, true_and]
      · rw [if_neg hnext]
        refine iff_of_false nofun ?_
        rintro ⟨-, rfl, hn⟩
        -- More digits only lead further away from zero, so what has left the range stays outside.
        exact hnext (contains_signedValue_of_le hzero (le_ofDigitChars _ _) hn)

theorem contains_zero_signed (bits : Nat) : (Range.signed bits).Contains 0 := by
  have hpos : 0 < Nat.pow 2 (bits - 1) := Nat.pow_pos (by decide)
  constructor <;> dsimp only [Range.signed] <;> omega

/-- One or more digits, perhaps behind a sign. -/
inductive IsNumeral : List Char → Bool → List Char → Prop
  | plain {digits : List Char} (hne : digits ≠ []) (h : ∀ c ∈ digits, c.isDigit = true) :
    IsNumeral digits false digits
  | plus {digits : List Char} (hne : digits ≠ []) (h : ∀ c ∈ digits, c.isDigit = true) :
    IsNumeral ('+' :: digits) false digits
  | minus {digits : List Char} (hne : digits ≠ []) (h : ∀ c ∈ digits, c.isDigit = true) :
    IsNumeral ('-' :: digits) true digits

theorem IsNumeral.readIntegerChars_eq (h : IsNumeral cs negative digits) (hleast : r.least < 0) :
    readIntegerChars r cs = readDigits r negative 0 digits := by
  cases h with
  | plain hne h =>
    unfold readIntegerChars
    split
    · exact absurd rfl hne
    · exact absurd (h '+' (by simp)) (by decide)
    · exact absurd (h '-' (by simp)) (by decide)
    · exact absurd (h '+' (by simp)) (by decide)
    · exact absurd (h '-' (by simp)) (by decide)
    · rfl
  | plus hne h =>
    obtain ⟨c, digits, rfl⟩ := List.exists_cons_of_ne_nil hne
    rfl
  | minus hne h =>
    obtain ⟨c, digits, rfl⟩ := List.exists_cons_of_ne_nil hne
    simp [readIntegerChars, hleast]

theorem readDigits_zero_eq_ok_iff (hzero : r.Contains 0) : readDigits r negative 0 digits = .ok n ↔
    (∀ c ∈ digits, c.isDigit = true) ∧ n = signedValue negative (Nat.ofDigitChars 10 digits 0) ∧
    r.Contains n := by
  have hvalue : signedValue negative 0 = 0 := by cases negative <;> rfl
  have h := @readDigits_eq_ok_iff r negative digits n 0 hzero (hvalue.symm ▸ hzero)
  rwa [hvalue] at h

theorem isNumeral_of_readIntegerChars (hzero : r.Contains 0) (h : readIntegerChars r cs = .ok n) :
    ∃ negative digits, IsNumeral cs negative digits := by
  unfold readIntegerChars at h
  split at h
  · cases h
  · cases h
  · cases h
  · next digits hne => exact ⟨false, digits,
      .plus (by rintro rfl; exact hne rfl) ((readDigits_zero_eq_ok_iff hzero).1 h).1⟩
  · next digits hne =>
    split at h
    · exact ⟨true, digits, .minus (by rintro rfl; exact hne rfl)
        ((readDigits_zero_eq_ok_iff hzero).1 h).1⟩
    · cases h
  · next hne _ _ _ _ => exact ⟨false, cs, .plain hne ((readDigits_zero_eq_ok_iff hzero).1 h).1⟩

/-- The texts that read as a number with a sign are the numerals of the range. -/
theorem readIntegerChars_eq_ok_iff (hzero : r.Contains 0) (hleast : r.least < 0) :
    readIntegerChars r cs = .ok n ↔
    ∃ negative digits, IsNumeral cs negative digits ∧
    n = signedValue negative (Nat.ofDigitChars 10 digits 0) ∧
      r.Contains n := by
  constructor
  · intro h
    obtain ⟨negative, digits, hcs⟩ := isNumeral_of_readIntegerChars hzero h
    rw [hcs.readIntegerChars_eq hleast, readDigits_zero_eq_ok_iff hzero] at h
    exact ⟨negative, digits, hcs, h.2⟩
  · rintro ⟨negative, digits, hcs, hn⟩
    rw [hcs.readIntegerChars_eq hleast, readDigits_zero_eq_ok_iff hzero]
    exact ⟨by cases hcs <;> assumption, hn⟩

theorem isNumeral_toString (n : Int) :
    IsNumeral (toString n).toList (decide (n < 0)) (Nat.toDigits 10 n.natAbs) := by
  have hdigits : ∀ c ∈ Nat.toDigits 10 n.natAbs, c.isDigit = true := fun c hc =>
    Nat.isDigit_of_mem_toDigits (by decide) (by decide) hc
  cases n with
  | ofNat k =>
    have htext : (toString (Int.ofNat k)).toList = Nat.toDigits 10 k := Nat.toList_repr
    rw [htext]
    exact .plain Nat.toDigits_ne_nil hdigits
  | negSucc k =>
    have htext : (toString (Int.negSucc k)).toList = '-' :: Nat.toDigits 10 (k + 1) := by
      rw [Int.toString_eq_repr, Int.repr, String.toList_append, Nat.toList_repr]
      rfl
    rw [htext, decide_eq_true (Int.negSucc_lt_zero k)]
    exact .minus Nat.toDigits_ne_nil hdigits

theorem readIntegerChars_toString (hzero : r.Contains 0) (hleast : r.least < 0)
    (hn : r.Contains n) : readIntegerChars r (toString n).toList = .ok n := by
  refine (readIntegerChars_eq_ok_iff hzero hleast).2 ⟨_, _, isNumeral_toString n, ?_, hn⟩
  rw [Nat.ofDigitChars_ten_toDigits]
  unfold signedValue
  by_cases hnegative : n < 0
  · rw [if_pos (decide_eq_true hnegative)]
    omega
  · rw [if_neg (fun h => hnegative (of_decide_eq_true h))]
    omega

end LiveLesson.Text
