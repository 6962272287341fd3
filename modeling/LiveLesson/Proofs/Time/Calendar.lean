import LiveLesson.Time.Calendar
import Mathlib.Data.Int.Init
import Mathlib.Tactic.ByContra

/-!
Days and dates lead back to each other. The days of an era of 400 years are cut into years that
begin in March, and these into months; what is cut off at each step is what counting the days adds
up again.
-/

namespace LiveLesson.Date

/-- The days of an era before one of its years. -/
def firstDay (y : Int) : Int := 365 * y + y / 4 - y / 100 + y / 400

/-- The year of an era that a day of it falls in. -/
def yearOfDay (n : Int) : Int := (n - n / 1460 + n / 36524 - n / 146096) / 365

theorem yearOfDay_le_succ (n : Int) : yearOfDay n ≤ yearOfDay (n + 1) := by
  refine Int.ediv_le_ediv (by decide) ?_
  have hcentury : ∀ k : Int, k / 146096 = k / 36524 / 4 := by omega
  rw [hcentury, hcentury]
  have hquad : (n + 1) / 1460 ≤ n / 1460 + 1 := by omega
  have hstep : n / 36524 ≤ (n + 1) / 36524 := by omega
  omega

theorem yearOfDay_mono {m n : Int} (h : m ≤ n) : yearOfDay m ≤ yearOfDay n := by
  induction n, h using Int.leInduction with
  | base => exact Int.le_refl _
  | succ n _ ih => exact Int.le_trans ih (yearOfDay_le_succ n)

theorem yearOfDay_ends : ∀ y < 400,
    yearOfDay (firstDay (y : Nat)) = y ∧ yearOfDay (firstDay ((y : Nat) + 1) - 1) = y := by
  decide +kernel

theorem yearOfDay_spec {n : Int} (h : 0 ≤ n) (h' : n < 146097) :
    (0 ≤ yearOfDay n ∧ yearOfDay n < 400) ∧ firstDay (yearOfDay n) ≤ n ∧
    n < firstDay (yearOfDay n + 1) := by
  have hbounds : 0 ≤ yearOfDay n ∧ yearOfDay n < 400 := by
    have hlast : yearOfDay n ≤ yearOfDay 146096 := yearOfDay_mono (by omega)
    exact ⟨yearOfDay_mono h, Int.lt_of_le_of_lt hlast (by decide)⟩
  obtain ⟨y, hy⟩ := Int.eq_ofNat_of_zero_le hbounds.1
  have hlt : y < 400 := by omega
  rw [hy]
  refine ⟨by omega, ?_, ?_⟩
  · -- In front of its first day it would be an earlier year.
    by_contra hbefore
    cases y with
    | zero => exact hbefore h
    | succ y =>
      have hearlier : yearOfDay n ≤ yearOfDay (firstDay ((y : Nat) + 1) - 1) :=
        yearOfDay_mono (Int.le_sub_one_of_lt (Int.not_le.1 hbefore))
      rw [(yearOfDay_ends y (by omega)).2, hy] at hearlier
      omega
  · -- From the first day of the next year on it would be a later year.
    by_contra hbehind
    have hlater : yearOfDay (firstDay ((y : Nat) + 1)) ≤ yearOfDay n :=
      yearOfDay_mono (Int.not_lt.1 hbehind)
    by_cases hlast : y = 399
    · subst hlast
      exact hbehind h'
    · have hnext := (yearOfDay_ends (y + 1) (by omega)).1
      rw [Int.natCast_add, Int.natCast_one] at hnext
      rw [hnext, hy] at hlater
      omega

/-- The date of a day, counted from zero, in the year that begins in March. -/
def ofMarch (year day : Int) : Date :=
  let shifted := (5 * day + 2) / 153
  let month := if shifted < 10 then shifted + 3 else shifted - 9
  ⟨year + (if month ≤ 2 then 1 else 0), month.toNat, (day - (153 * shifted + 2) / 5 + 1).toNat⟩

theorem ofDays_eq (days : Int) : let z := days + 719468
    ofDays days = ofMarch (yearOfDay (z % 146097) + z / 146097 * 400)
      (z % 146097 - (365 * yearOfDay (z % 146097) + yearOfDay (z % 146097) / 4 - yearOfDay
        (z % 146097) / 100)) :=
  rfl

theorem firstDay_eq {y : Int} (h : 0 ≤ y) (h' : y < 400) :
    firstDay y = 365 * y + y / 4 - y / 100 := by
  unfold firstDay
  omega

theorem exists_ofMarch (days : Int) : ∃ era y d :
    Int, (0 ≤ y ∧ y < 400) ∧ (0 ≤ d ∧ d < firstDay (y + 1) - firstDay y) ∧
    days = era * 146097 + firstDay y + d - 719468 ∧ ofDays days = ofMarch (y + era * 400) d := by
  have hday : 0 ≤ (days + 719468) % 146097 ∧ (days + 719468) % 146097 < 146097 := by omega
  obtain ⟨hyear, hfirst, hlast⟩ := yearOfDay_spec hday.1 hday.2
  refine ⟨(days + 719468) / 146097, yearOfDay ((days + 719468) % 146097), _, hyear, ?_, ?_,
    ofDays_eq days⟩
  · rw [← firstDay_eq hyear.1 hyear.2]
    omega
  · rw [← firstDay_eq hyear.1 hyear.2]
    omega

theorem shifted_bounds {d : Int} (h : 0 ≤ d ∧ d ≤ 365) :
    0 ≤ (5 * d + 2) / 153 ∧ (5 * d + 2) / 153 ≤ 11 := by
  omega

theorem toDays_ofMarch {era y d : Int} (hy : 0 ≤ y ∧ y < 400) (hd : 0 ≤ d ∧ d ≤ 365) :
    toDays (ofMarch (y + era * 400) d) = era * 146097 + firstDay y + d - 719468 := by
  have hera : (y + era * 400) / 400 = era ∧ (y + era * 400) % 400 = y := by omega
  have hday : ((d - (153 * ((5 * d + 2) / 153) + 2) / 5 + 1).toNat : Int) =
      d - (153 * ((5 * d + 2) / 153) + 2) / 5 + 1 := Int.toNat_of_nonneg (by omega)
  have hs := shifted_bounds hd
  rw [firstDay_eq hy.1 hy.2]
  generalize hshifted : (5 * d + 2) / 153 = s at hday hs
  simp only [toDays, ofMarch, hshifted, hday]
  by_cases hs' : s < 10
  · have hmonth : ¬ s + 3 ≤ 2 ∧ ¬ (s + 3).toNat ≤ 2 ∧
        (((s + 3).toNat + 9) % 12 : Nat) = s := by omega
    simp only [if_pos hs', if_neg hmonth.1, if_neg hmonth.2.1, hmonth.2.2, Int.add_zero, hera]
    omega
  · have hmonth : s - 9 ≤ 2 ∧ (s - 9).toNat ≤ 2 ∧ (((s - 9).toNat + 9) % 12 : Nat) = s := by omega
    simp only [if_neg hs', if_pos hmonth.1, if_pos hmonth.2.1, hmonth.2.2, Int.add_sub_cancel, hera]
    omega

theorem toDays_ofDays (days : Int) : toDays (ofDays days) = days := by
  obtain ⟨era, y, d, hy, hd, hdays, hdate⟩ := exists_ofMarch days
  have hlength : firstDay (y + 1) - firstDay y ≤ 366 := by
    unfold firstDay
    omega
  rw [hdate, toDays_ofMarch hy ⟨hd.1, by omega⟩, ← hdays]

theorem month_ofMarch : ∀ d < 366, let date := ofMarch 0 (d : Nat)
    (1 ≤ date.month ∧ date.month ≤ 12) ∧ 1 ≤ date.day ∧
      (date.month ≠ 2 → date.day ≤ daysInMonth 0 date.month) ∧
      (date.month = 2 → date.year = 1 ∧ date.day ≤ if d = 365 then 29 else 28) := by
  decide +kernel

theorem daysInMonth_of_ne_two {month : Nat} (h : month ≠ 2) (year : Int) :
    daysInMonth year month = daysInMonth 0 month := by
  unfold daysInMonth
  split
  · exact absurd rfl h
  all_goals rfl

theorem ofMarch_eq (year day : Int) :
    ofMarch year day = ⟨year + (ofMarch 0 day).year, (ofMarch 0 day).month,
      (ofMarch 0 day).day⟩ := by
  simp [ofMarch]

theorem isValid_ofMarch {year d : Int} (hd : 0 ≤ d ∧ d ≤ 365)
    (hleap : d = 365 → isLeapYear (year + 1) = true)
    (hyear : -262143 ≤ (ofMarch year d).year ∧ (ofMarch year d).year ≤ 262142) :
    (ofMarch year d).isValid = true := by
  obtain ⟨n, rfl⟩ := Int.eq_ofNat_of_zero_le hd.1
  obtain ⟨hmonth, hday, hother, hfebruary⟩ := month_ofMarch n (by omega)
  rw [ofMarch_eq] at hyear ⊢
  have hlast : (ofMarch 0 n).day ≤ daysInMonth (year + (ofMarch 0 n).year) (ofMarch 0 n).month := by
    by_cases htwo : (ofMarch 0 n).month = 2
    · obtain ⟨hnext, hlast⟩ := hfebruary htwo
      rw [hnext, htwo, daysInMonth]
      by_cases hlong : n = 365
      · rw [if_pos hlong] at hlast
        rwa [if_pos (hleap (by omega))]
      · rw [if_neg hlong] at hlast
        split <;> omega
    · rw [daysInMonth_of_ne_two htwo]
      exact hother htwo
  simp only [isValid, Bool.and_eq_true, decide_eq_true_eq]
  exact ⟨⟨⟨⟨hyear, hmonth.1⟩, hmonth.2⟩, hday⟩, hlast⟩

theorem isLeapYear_of_length {y era : Int} (h : 365 < firstDay (y + 1) - firstDay y) :
    isLeapYear (y + era * 400 + 1) = true := by
  unfold firstDay at h
  have hrule : (y + era * 400 + 1) % 4 = 0 ∧
      ((y + era * 400 + 1) % 100 ≠ 0 ∨ (y + era * 400 + 1) % 400 = 0) := by
    omega
  simpa [isLeapYear] using hrule

theorem isValid_ofDays {days : Int}
    (hyear : -262143 ≤ (ofDays days).year ∧ (ofDays days).year ≤ 262142) :
    (ofDays days).isValid = true := by
  obtain ⟨era, y, d, hy, hd, -, hdate⟩ := exists_ofMarch days
  rw [hdate] at hyear ⊢
  refine isValid_ofMarch ⟨hd.1, ?_⟩ (fun hlast => isLeapYear_of_length (by omega)) hyear
  unfold firstDay at hd
  omega

end LiveLesson.Date
