import LiveLesson.Proofs.Text.Trim
import LiveLesson.Proofs.Time.Calendar
import LiveLesson.Time.Rfc3339
import Mathlib.Data.Nat.Digits.Defs

/-!
What a moment is written as reads as that moment. Every part of the text is a fixed number of
digits, and behind each number stands what ends it.
-/

namespace LiveLesson.Timestamp

theorem isDigit_padded (width n : Nat) : ∀ c ∈ padded width n, c.isDigit = true := by
  intro c hc
  rcases List.mem_append.1 hc with hc | hc
  · rw [List.eq_of_mem_replicate hc]
    rfl
  · exact Nat.isDigit_of_mem_toDigits (by decide) (by decide) hc

theorem length_padded {width n : Nat} (hwidth : 0 < width) (h : n < 10 ^ width) :
    (padded width n).length = width := by
  have hlength := (Nat.length_toDigits_le_iff (b := 10) (by decide) hwidth).2 h
  simp only [padded, List.length_append, List.length_replicate]
  omega

theorem ofDigitChars_padded (width n : Nat) : Nat.ofDigitChars 10 (padded width n) 0 = n := by
  rw [padded, Nat.ofDigitChars_append, Nat.ofDigitChars_replicate_zero, Nat.mul_zero,
    Nat.ofDigitChars_ten_toDigits]

theorem digitRun_append {digits rest : List Char} (hdigits : ∀ c ∈ digits, c.isDigit = true)
    {most count : Nat} (hmost : count + digits.length ≤ most)
    (hrest : count + digits.length = most ∨ ∀ c ∈ rest.head?, c.isDigit = false) (acc : Nat) :
    digitRun (some most) count acc (digits ++ rest) =
      (count + digits.length, Nat.ofDigitChars 10 digits acc, rest) := by
  induction digits generalizing count acc with
  | nil =>
    cases rest with
    | nil => rfl
    | cons c rest =>
      rw [List.nil_append, digitRun]
      split
      · rfl
      · next hmore =>
        have hend : c.isDigit = false := hrest.resolve_left (by simpa [eq_comm] using hmore) c rfl
        rw [Text.digit?, hend, if_neg Bool.false_ne_true]
        rfl
  | cons d digits ih =>
    obtain ⟨hd, hdigits⟩ := List.forall_mem_cons.1 hdigits
    rw [List.length_cons] at hmost hrest
    have hmore : ¬ some most = some count := by
      rw [Option.some_inj]
      omega
    rw [List.cons_append, digitRun, if_neg hmore, Text.digit?, if_pos hd]
    dsimp only
    have hcount : count + 1 + digits.length = count + (digits.length + 1) := by omega
    rw [ih hdigits (by omega) (hrest.imp_left fun h => by omega), Nat.ofDigitChars_cons,
      List.length_cons, hcount, Nat.mul_comm 10]

theorem number_padded {width n most : Nat} (hwidth : 0 < width) (hn : n < 10 ^ width)
    (hmost : width ≤ most) (hlimit : n < Nat.pow 2 63) {rest : List Char}
    (hrest : width = most ∨ ∀ c ∈ rest.head?, c.isDigit = false) :
    number (some most) (padded width n ++ rest) = .ok (n, rest) := by
  have hlength := length_padded hwidth hn
  have hrun : digitRun (some most) 0 0 (padded width n ++ rest) =
      (0 + (padded width n).length, Nat.ofDigitChars 10 (padded width n) 0, rest) :=
    digitRun_append (isDigit_padded width n) (by omega) (hrest.imp_left fun h => by omega) 0
  have hne : ¬ (padded width n ++ rest).isEmpty = true := by
    have hpadded : padded width n ≠ [] := List.ne_nil_of_length_pos (by omega)
    simp [hpadded]
  rw [hlength, Nat.zero_add, ofDigitChars_padded] at hrun
  rw [number, if_neg hne, hrun]
  dsimp only
  rw [if_neg (by omega), if_neg (by omega)]

theorem exists_cons_padded {width n : Nat} (hwidth : 0 < width) (hn : n < 10 ^ width) :
    ∃ d digits, padded width n = d :: digits ∧ d.isDigit = true := by
  have hlength := length_padded hwidth hn
  obtain ⟨d, digits, hpadded⟩ := List.exists_cons_of_length_pos (hlength ▸ hwidth)
  exact ⟨d, digits, hpadded, isDigit_padded width n d (hpadded ▸ List.mem_cons_self)⟩

theorem skipBlanks_cons {c : Char} (hc : Text.isBlank c = false) (cs : List Char) :
    skipBlanks (c :: cs) = c :: cs := by
  rw [skipBlanks, List.dropWhile_cons, hc, if_neg Bool.false_ne_true]

theorem skipBlanks_padded {width n : Nat} (hwidth : 0 < width) (hn : n < 10 ^ width)
    (rest : List Char) : skipBlanks (padded width n ++ rest) = padded width n ++ rest := by
  obtain ⟨d, digits, hpadded, hd⟩ := exists_cons_padded hwidth hn
  rw [hpadded, List.cons_append, skipBlanks_cons (Text.isBlank_of_isDigit hd)]

theorem part_padded {least greatest n : Nat} (hgreatest : greatest < 100)
    (hn : least ≤ n ∧ n ≤ greatest) (rest : List Char) :
    part least greatest (padded 2 n ++ rest) = .ok (n, rest) := by
  have hsmall : n < 10 ^ 2 := by omega
  have hnumber : number (some 2) (padded 2 n ++ rest) = .ok (n, rest) :=
    number_padded (by decide) hsmall (by decide) (Nat.lt_trans hsmall (by decide)) (.inl rfl)
  rw [part, skipBlanks_padded (by decide) hsmall, hnumber]
  exact if_pos (by simpa using hn)

theorem separator_padded {c : Char} (hc : Text.isBlank c = false) {n : Nat} (hn : n < 100)
    (rest : List Char) : separator c (c :: (padded 2 n ++ rest)) = .ok (padded 2 n ++ rest) := by
  rw [separator, skipBlanks_cons hc, literal, if_pos rfl]
  exact congrArg Except.ok (skipBlanks_padded (by decide) hn rest)

theorem year_yearText {y : Int} (hy : 0 ≤ y ∧ y ≤ 9999) (rest : List Char) :
    year (yearText y ++ rest) = .ok (y, rest) := by
  obtain ⟨n, rfl⟩ := Int.eq_ofNat_of_zero_le hy.1
  have hn : n < 10 ^ 4 := by omega
  have hnumber : number (some 4) (padded 4 n ++ rest) = .ok (n, rest) :=
    number_padded (by decide) hn (by decide) (Nat.lt_trans hn (by decide)) (.inl rfl)
  obtain ⟨d, digits, hpadded, hd⟩ := exists_cons_padded (by decide) hn
  have htext : yearText n = padded 4 n := by
    rw [yearText, if_pos (by simpa using hy), Int.toNat_natCast]
  have hrange : (Text.Range.signed 32).Contains (n : Int) := by
    unfold Text.Range.Contains Text.Range.signed
    simp only [Nat.pow_eq]
    omega
  rw [year, htext, skipBlanks_padded (by decide) hn, hpadded, List.cons_append]
  rw [hpadded, List.cons_append] at hnumber
  split
  · next h => exact absurd hd ((List.cons.inj h).1 ▸ by decide)
  · next h => exact absurd hd ((List.cons.inj h).1 ▸ by decide)
  · rw [hnumber]
    exact if_pos hrange

theorem fraction_padded {width n : Nat} (hwidth : 0 < width ∧ width ≤ 9) (hn : n < 10 ^ width) :
    fraction ('.' :: (padded width n ++ ['Z'])) = .ok (n * 10 ^ (9 - width), ['Z']) := by
  have hlimit : n < Nat.pow 2 63 :=
    Nat.lt_of_lt_of_le hn (Nat.le_trans (Nat.pow_le_pow_right (by decide) hwidth.2) (by decide))
  have hnumber : number (some 9) (padded width n ++ ['Z']) = .ok (n, ['Z']) :=
    number_padded hwidth.1 hn hwidth.2 hlimit (.inr (by simp))
  have hlength := length_padded hwidth.1 hn
  rw [fraction, hnumber]
  have hcount : (padded width n ++ ['Z']).length - ['Z'].length = width := by simp [hlength]
  refine congrArg Except.ok (Prod.ext ?_ rfl)
  rw [hcount, Nat.pow_eq]

theorem fraction_fractionText {nanos : Nat} (h : nanos < 1000000000) :
    fraction (fractionText nanos ++ ['Z']) = .ok (nanos, ['Z']) := by
  unfold fractionText
  split
  · next hzero =>
    rw [hzero]
    rfl
  · split
    · next hmilli =>
      rw [List.cons_append, fraction_padded (by decide) (by omega)]
      refine congrArg Except.ok (Prod.ext ?_ rfl)
      dsimp only
      omega
    · split
      · next hmicro =>
        rw [List.cons_append, fraction_padded (by decide) (by omega)]
        refine congrArg Except.ok (Prod.ext ?_ rfl)
        dsimp only
        omega
      · rw [List.cons_append, fraction_padded (by decide) (by omega)]
        rw [Nat.sub_self, Nat.pow_zero, Nat.mul_one]

theorem zone_utc : zone (skipBlanks ['Z']) = .ok (0, []) := by
  decide

/-- A moment that clocks show in a year of four digits. Its fraction is less than a second, or less
than two in the last second of a minute, where a leap second may follow. -/
structure IsCommon (t : Timestamp) : Prop where
  nanos : t.nanos < 1000000000 ∨ t.seconds % 60 = 59 ∧ t.nanos < 2000000000
  year : 0 ≤ (Date.ofDays (t.seconds / 86400)).year ∧ (Date.ofDays (t.seconds / 86400)).year ≤ 9999

variable {t : Timestamp}

theorem IsCommon.isValid (h : t.IsCommon) : (Date.ofDays (t.seconds / 86400)).isValid = true :=
  Date.isValid_ofDays (by have hyear := h.year; omega)

theorem isValid_bounds {d : Date} (h : d.isValid = true) :
    (1 ≤ d.month ∧ d.month ≤ 12) ∧ 1 ≤ d.day ∧ d.day ≤ 31 := by
  have hdays : Date.daysInMonth d.year d.month ≤ 31 := by
    unfold Date.daysInMonth
    repeat' split
    all_goals decide
  simp only [Date.isValid, Bool.and_eq_true, decide_eq_true_eq] at h
  omega

theorem IsCommon.ofParts_eq (h : t.IsCommon) :
    let daytime := (t.seconds % 86400).toNat
    ofParts (Date.ofDays (t.seconds / 86400)) (daytime / 3600) (daytime / 60 % 60)
      (daytime % 60 + t.nanos / 1000000000) (t.nanos % 1000000000) 0 = .ok t := by
  intro daytime
  have hvalid := h.isValid
  have hnanos := h.nanos
  have hdaytime : (daytime : Int) = t.seconds % 86400 := Int.toNat_of_nonneg (by omega)
  -- The sixtieth second is the one before it with a larger fraction.
  have hsecond : (if daytime % 60 + t.nanos / 1000000000 = 60 then
      (59, t.nanos % 1000000000 + 1000000000)
      else (daytime % 60 + t.nanos / 1000000000, t.nanos % 1000000000)) =
        (daytime % 60, t.nanos) := by
    split <;> exact Prod.ext (by dsimp only; omega) (by dsimp only; omega)
  have hseconds : (t.seconds / 86400) * 86400 +
      (((daytime / 3600 * 60 + daytime / 60 % 60) * 60 + daytime % 60 : Nat) : Int) - 0 =
        t.seconds := by omega
  simp only [ofParts, hvalid, hsecond, Date.toDays_ofDays, hseconds, Bool.not_true,
    Bool.false_eq_true, if_false, if_true]
  exact if_neg (by decide)

theorem IsCommon.read_text (h : t.IsCommon) : read t.text = .ok t := by
  obtain ⟨hmonth, hday⟩ := isValid_bounds h.isValid
  have hparts := h.ofParts_eq
  have hnanos := h.nanos
  have hdash : Text.isBlank '-' = false := by decide
  have hcolon : Text.isBlank ':' = false := by decide
  have hbetween : ∀ cs, betweenDateAndTime ('T' :: cs) = .ok cs := fun _ => rfl
  have hend : (skipBlanks []).isEmpty = true := rfl
  have hfraction := fraction_fractionText (Nat.mod_lt t.nanos (by decide : 0 < 1000000000))
  simp only [read, text, String.toList_ofList, toChars, List.append_assoc, List.cons_append]
  -- One part of the text after the other, each followed by what ends it.
  simp (disch := omega) only [year_yearText h.year, separator_padded hdash, separator_padded hcolon,
    part_padded, hbetween, hfraction, zone_utc, hend, bind, Except.bind]
  exact hparts

end LiveLesson.Timestamp
