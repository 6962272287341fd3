import LiveLesson.Number.Shortest
import LiveLesson.Proofs.Json.Numbers
import Mathlib.Tactic.Ring

/-!
The text of a finite number is a number of the JSON grammar. Seventeen digits always tell the number
from its neighbours, so the search for the fewest digits ends at digits, the first of which is no
zero.
-/

namespace LiveLesson.Binary64

def IsFinite : Binary64 → Prop
  | .finite _ m e => m < 2 ^ precision ∧ leastExponent ≤ e ∧ e ≤ greatestExponent
  | .infinite _ => False
  | .notANumber => False

instance : (x : Binary64) → Decidable x.IsFinite
  | .finite _ _ _ => inferInstanceAs (Decidable (_ ∧ _))
  | .infinite _ => instDecidableFalse
  | .notANumber => instDecidableFalse

theorem exists_pointBelowOne {num den fuel : Nat} (h : den ≤ num * 10 ^ fuel * 10) (k : Int) :
    ∃ j : Nat, pointBelowOne num den fuel k = k - j ∧ den ≤ num * 10 ^ j * 10 := by
  induction fuel generalizing num k with
  | zero => exact ⟨0, by simp [pointBelowOne], h⟩
  | succ fuel ih =>
    rw [pointBelowOne]
    split
    · have hnext : den ≤ num * 10 * 10 ^ fuel * 10 := by rwa [Nat.mul_assoc num, ← Nat.pow_succ']
      obtain ⟨j, hj, hden⟩ := ih hnext (k - 1)
      refine ⟨j + 1, by rw [hj]; omega, ?_⟩
      rwa [Nat.mul_assoc num, ← Nat.pow_succ'] at hden
    · next hstop => exact ⟨0, by simp, by simpa using hstop⟩

/-- One unit of the last of some digits behind a point, as a fraction. -/
def gridUnit (point : Int) (count : Nat) : Nat × Nat :=
  match point - count with
  | .ofNat p => (Nat.pow 10 p, 1)
  | .negSucc p => (1, Nat.pow 10 (p + 1))

theorem gridUnit_of_large {point : Int} {count p : Nat} (h : point = count + p) :
    gridUnit point count = (10 ^ p, 1) := by
  have hpoint : point - count = Int.ofNat p := by
    rw [Int.ofNat_eq_natCast]
    omega
  rw [gridUnit, hpoint]
  rfl

theorem gridUnit_of_small {point : Int} {count p : Nat} (h : point + (p + 1) = count) :
    gridUnit point count = (1, 10 ^ (p + 1)) := by
  have hpoint : point - count = Int.negSucc p := by
    rw [Int.negSucc_eq]
    omega
  rw [gridUnit, hpoint]
  rfl

theorem gridUnit_pos (point : Int) (count : Nat) :
    0 < (gridUnit point count).1 ∧ 0 < (gridUnit point count).2 := by
  rw [gridUnit]
  split
  · exact ⟨Nat.pow_pos (by decide), Nat.one_pos⟩
  · exact ⟨Nat.one_pos, Nat.pow_pos (by decide)⟩

theorem gridUnit_le {num den : Nat} (hden : 0 < den) (hsmall : den ≤ num * 10 ^ 400 * 10) :
    (gridUnit (decimalPoint num den) 17).1 * den * 10 ^ 16 ≤
      num * (gridUnit (decimalPoint num den) 17).2 := by
  rw [decimalPoint]
  split
  · next hle =>
    have hquotient : 0 < num / den := Nat.div_pos hle hden
    obtain ⟨p, hp⟩ :=
      Nat.exists_eq_add_of_le' (List.length_pos_iff.2
        (Nat.toDigits_ne_nil (n := num / den) (b := 10)))
    have hfirst : 10 ^ p ≤ num / den := by
      cases p with
      | zero => exact hquotient
      | succ p =>
        refine Nat.le_of_not_lt fun hlt => ?_
        have hlength := (Nat.length_toDigits_le_iff (by decide) (Nat.succ_pos p)).2 hlt
        omega
    have hwhole : 10 ^ p * den ≤ num :=
      Nat.le_trans (Nat.mul_le_mul_right den hfirst) (Nat.div_mul_le_self num den)
    -- A unit of the last digit is a fraction if the number has fewer than seventeen digits before
    -- its point.
    rw [hp]
    rcases Nat.lt_or_ge p 16 with hp | hp
    · obtain ⟨k, hk⟩ : ∃ k, 16 = p + (k + 1) := ⟨15 - p, by omega⟩
      rw [gridUnit_of_small (p := k) (by omega)]
      calc 1 * den * 10 ^ 16
        _ = 10 ^ p * den * 10 ^ (k + 1) := by rw [hk]; ring
        _ ≤ num * 10 ^ (k + 1) := Nat.mul_le_mul_right _ hwhole
    · obtain ⟨k, rfl⟩ := Nat.exists_eq_add_of_le hp
      rw [gridUnit_of_large (p := k) (by omega)]
      calc 10 ^ k * den * 10 ^ 16
        _ = 10 ^ (16 + k) * den := by ring
        _ ≤ num * 1 := by rwa [Nat.mul_one]
  · obtain ⟨j, hj, hle⟩ := exists_pointBelowOne hsmall 0
    rw [hj, gridUnit_of_small (p := 16 + j) (by omega)]
    calc 1 * den * 10 ^ 16
      _ ≤ num * 10 ^ j * 10 * 10 ^ 16 := by rw [Nat.one_mul]; exact Nat.mul_le_mul_right _ hle
      _ = num * 10 ^ (16 + j + 1) := by ring

/-- The nearer one of the two grid points beside the number that lie in the basin. -/
def nearest? (b : Basin) (up down : Nat) : Option Nat :=
  let below := b.mid * down / (b.den * up)
  let above := below + 1
  let okBelow := below ≠ 0 && b.Holds (below * up) down
  let okAbove := b.Holds (above * up) down
  if okBelow && okAbove then
    let gapBelow := b.mid * down - below * up * b.den
    let gapAbove := above * up * b.den - b.mid * down
    if gapBelow < gapAbove then some below
    else if gapAbove < gapBelow then some above
    else if below % 2 = 0 then some below else some above
  else if okBelow then some below
  else if okAbove then some above
  else none

theorem gridPoint?_eq (b : Basin) (point : Int) (count : Nat) :
    gridPoint? b point count = nearest? b (gridUnit point count).1 (gridUnit point count).2 := by
  rw [gridPoint?, gridUnit]
  cases point - count <;> rfl

theorem nearest?_cases (b : Basin) (up down : Nat) :
    (∃ n, nearest? b up down = some n ∧ 0 < n) ∨ nearest? b up down = none ∧
      (b.mid * down / (b.den * up) ≠ 0 → b.Holds (b.mid * down / (b.den * up) * up) down = false) ∧
      b.Holds ((b.mid * down / (b.den * up) + 1) * up) down = false := by
  simp only [nearest?]
  generalize b.mid * down / (b.den * up) = below
  generalize b.Holds (below * up) down = okBelow
  generalize b.Holds ((below + 1) * up) down = okAbove
  generalize b.mid * down - below * up * b.den = gapBelow
  generalize (below + 1) * up * b.den - b.mid * down = gapAbove
  have hbelow : (below ≠ 0 && okBelow) = true → 0 < below := fun h =>
    Nat.pos_of_ne_zero (of_decide_eq_true (Bool.and_eq_true_iff.1 h).1)
  split
  · next hboth =>
    have hpos := hbelow (Bool.and_eq_true_iff.1 hboth).1
    refine .inl ?_
    repeat' split
    all_goals exact ⟨_, rfl, by omega⟩
  · split
    · next hfirst => exact .inl ⟨_, rfl, hbelow hfirst⟩
    · next hfirst =>
      split
      · exact .inl ⟨_, rfl, Nat.succ_pos _⟩
      · next hsecond => exact .inr ⟨rfl, by simpa using hfirst, by simpa using hsecond⟩

theorem holds_of_between {b : Basin} {num den : Nat} (hlow : b.low * den < num * b.den)
    (hhigh : num * b.den < b.high * den) :
    b.Holds num den = true := by
  rw [Basin.Holds]
  split
  · simpa using ⟨hlow.le, hhigh.le⟩
  · simpa using ⟨hlow, hhigh⟩

/-- One of the two is in the basin if a unit of the grid is narrower than it. -/
theorem exists_nearest {b : Basin} {up down : Nat} (hlow : b.low < b.mid) (hhigh : b.mid < b.high)
    (hunit : up * b.den < (b.high - b.low) * down) (hup : 0 < up * b.den) :
    ∃ n, nearest? b up down = some n ∧ 0 < n := by
  refine (nearest?_cases b up down).resolve_right fun ⟨_, hbelow, habove⟩ => ?_
  have hdown : 0 < down := Nat.pos_of_mul_pos_left (Nat.zero_lt_of_lt hunit)
  have hden : 0 < b.den * up := by rwa [Nat.mul_comm]
  have hmid : b.low * down < b.mid * down := Nat.mul_lt_mul_of_pos_right hlow hdown
  have htop : b.mid * down < b.high * down := Nat.mul_lt_mul_of_pos_right hhigh hdown
  have hfloor := Nat.div_mul_le_self (b.mid * down) (b.den * up)
  have hceil := Nat.lt_mul_div_succ (b.mid * down) hden
  generalize b.mid * down / (b.den * up) = below at *
  -- If the lower point is not above the low end, the next one is less than the width of the basin
  -- above that end.
  have hfirst : below * up * b.den = below * (b.den * up) := by ring
  have hsecond : (below + 1) * up * b.den = below * (b.den * up) + up * b.den := by ring
  rcases Nat.lt_or_ge (b.low * down) (below * (b.den * up)) with hinside | hinside
  · have hne : below ≠ 0 := by
      rintro rfl
      rw [Nat.zero_mul] at hinside
      exact absurd hinside (Nat.not_lt_zero _)
    have hholds := holds_of_between (hfirst ▸ hinside) (hfirst ▸ Nat.lt_of_le_of_lt hfloor htop)
    rw [hbelow hne] at hholds
    cases hholds
  · have hwidth : (b.high - b.low) * down + b.low * down = b.high * down := by
      rw [← Nat.add_mul, Nat.sub_add_cancel (by omega)]
    have hnext : (below + 1) * up * b.den = b.den * up * (below + 1) := by ring
    have hholds : b.Holds ((below + 1) * up) down = true :=
      holds_of_between (hmid.trans (hnext ▸ hceil)) (by omega)
    rw [habove] at hholds
    cases hholds

theorem pos_of_gridPoint {b : Basin} {point : Int} {count n : Nat}
    (h : gridPoint? b point count = some n) : 0 < n := by
  rw [gridPoint?_eq] at h
  rcases nearest?_cases b (gridUnit point count).1 (gridUnit point count).2 with ⟨k, hk,
    hpos⟩ | ⟨hnone, -⟩
  · exact Option.some.inj (hk.symm.trans h) ▸ hpos
  · rw [hnone] at h
    cases h

theorem toFraction_eq (m : Nat) (e : Int) :
    toFraction m e = (m * (toFraction 1 e).1, (toFraction 1 e).2) := by
  cases e with
  | ofNat e => simp [toFraction, Nat.shiftLeft_eq]
  | negSucc e => simp [toFraction]

theorem toFraction_one_pos (e : Int) : 0 < (toFraction 1 e).1 ∧ 0 < (toFraction 1 e).2 := by
  cases e <;> simp [toFraction, Nat.shiftLeft_eq]

theorem two_pow_le_ten_pow {k n : Nat} (h : k ≤ 3 * n) : 2 ^ k ≤ 10 ^ n := by
  refine Nat.le_trans (Nat.pow_le_pow_right (by decide) h) ?_
  rw [Nat.pow_mul]
  exact Nat.pow_le_pow_left (by decide) n

theorem toFraction_one_le {e : Int} (h : leastExponent ≤ e) :
    (toFraction 1 e).2 ≤ 10 ^ 400 * 10 := by
  cases e with
  | ofNat e => exact Nat.one_le_iff_ne_zero.2 (by positivity)
  | negSucc e =>
    have hle : e + 1 ≤ 1074 := by
      rw [leastExponent, Int.negSucc_eq] at h
      omega
    rw [toFraction, Nat.one_shiftLeft]
    exact Nat.le_trans (two_pow_le_ten_pow (by omega)) (Nat.le_mul_of_pos_right _ (by decide))

/-- The quarters of the last place that a basin reaches down. It reaches two of them up. -/
def quartersDown (m : Nat) (e : Int) : Nat := if m = Nat.pow 2 52 && leastExponent < e then 1 else 2

theorem basin_eq (m : Nat) (e : Int) : basin m e =
    ⟨(4 * m - quartersDown m e) * (toFraction 1 e).1, 4 * m * (toFraction 1 e).1,
      (4 * m + 2) * (toFraction 1 e).1,
      4 * (toFraction 1 e).2, m % 2 = 0⟩ := rfl

theorem quartersDown_bounds {m : Nat} (hm : 0 < m ∧ m < 2 ^ precision) (e : Int) :
    (0 < quartersDown m e ∧ quartersDown m e < 4 * m) ∧
    4 * m < (2 + quartersDown m e) * 10 ^ 16 := by
  have hprecision : m < 2 ^ 53 := hm.2
  rw [quartersDown]
  split
  · next hpower =>
    have hm : m = 2 ^ 52 := of_decide_eq_true (Bool.and_eq_true_iff.1 hpower).1
    omega
  · omega

/-- Seventeen digits are enough. -/
theorem exists_gridPoint {m : Nat} (hm : 0 < m ∧ m < 2 ^ precision) {e : Int}
    (he : leastExponent ≤ e) :
    ∃ n, gridPoint? (basin m e) (decimalPoint (toFraction m e).1 (toFraction m e).2) 17 = some n ∧
    0 < n := by
  obtain ⟨hn, hd⟩ := toFraction_one_pos e
  have hd' := toFraction_one_le he
  rw [toFraction_eq, gridPoint?_eq, basin_eq]
  generalize (toFraction 1 e).1 = n at *
  generalize (toFraction 1 e).2 = d at *
  have hmn : 0 < m * n := Nat.mul_pos hm.1 hn
  have hsmall : d ≤ m * n * 10 ^ 400 * 10 := by
    rw [Nat.mul_assoc]
    exact Nat.le_trans hd' (Nat.le_mul_of_pos_left _ hmn)
  have hunit := gridUnit_le hd hsmall
  obtain ⟨hup, hdown⟩ := gridUnit_pos (decimalPoint (m * n) d) 17
  generalize gridUnit (decimalPoint (m * n) d) 17 = unit at *
  obtain ⟨up, down⟩ := unit
  dsimp only at *
  obtain ⟨hbounds, hwidth⟩ := quartersDown_bounds hm e
  generalize quartersDown m e = below at *
  have hhigh : 4 * m * n < (4 * m + 2) * n := Nat.mul_lt_mul_of_pos_right (by omega) hn
  have hlow : (4 * m - below) * n < 4 * m * n := Nat.mul_lt_mul_of_pos_right (by omega) hn
  refine exists_nearest hlow hhigh ?_ (by positivity)
  dsimp only
  have hspan : (4 * m + 2) * n - (4 * m - below) * n = (2 + below) * n := by
    rw [← Nat.sub_mul]
    congr 1
    omega
  rw [hspan]
  refine Nat.lt_of_mul_lt_mul_right (a := 10 ^ 16) ?_
  calc up * (4 * d) * 10 ^ 16
    _ = 4 * (up * d * 10 ^ 16) := by ring
    _ ≤ 4 * (m * n * down) := Nat.mul_le_mul_left 4 hunit
    _ = 4 * m * (n * down) := by ring
    _ < (2 + below) * 10 ^ 16 * (n * down) :=
    Nat.mul_lt_mul_of_pos_right hwidth (Nat.mul_pos hn hdown)
    _ = (2 + below) * n * down * 10 ^ 16 := by ring

theorem searchDigits_pos {b : Basin} {point : Int} {fuel count more : Nat} (hmore : more < fuel)
    (h : ∃ n, gridPoint? b point (count + more) = some n ∧ 0 < n) :
    0 < searchDigits b point fuel count := by
  induction fuel generalizing count more with
  | zero => exact absurd hmore (Nat.not_lt_zero _)
  | succ fuel ih =>
    rw [searchDigits]
    split
    · next n hn => exact pos_of_gridPoint hn
    · next hnone =>
      cases more with
      | zero =>
        obtain ⟨n, hn, -⟩ := h
        rw [Nat.add_zero, hnone] at hn
        cases hn
      | succ more =>
        exact ih (Nat.lt_of_succ_lt_succ hmore) (by rwa [Nat.add_assoc, Nat.add_comm 1])

/-- The digits of a positive number: there is a first one, and it is no zero. -/
def Decimal.IsNormal (x : Decimal) : Prop :=
  ∃ d ds, x.digits = d :: ds ∧ d ≠ '0' ∧ ∀ c ∈ d :: ds, c.isDigit = true

theorem exists_dropTrailingZeros {d : Char} (hd : d ≠ '0') (ds : List Char) :
    ∃ ds', dropTrailingZeros (d :: ds) = d :: ds' ∧ ds' ⊆ ds := by
  have hfirst : [d].dropWhile (· == '0') = [d] := by simp [hd]
  rw [dropTrailingZeros, List.reverse_cons, List.dropWhile_append, hfirst]
  split
  · exact ⟨[], rfl, List.nil_subset _⟩
  · refine ⟨(ds.reverse.dropWhile (· == '0')).reverse, by
      rw [List.reverse_append, List.reverse_singleton, List.singleton_append], fun c hc => ?_⟩
    exact List.mem_reverse.1 ((List.dropWhile_suffix _).subset (List.mem_reverse.1 hc))

theorem shortest_isNormal {m : Nat} (hm : 0 < m ∧ m < 2 ^ precision) {e : Int}
    (he : leastExponent ≤ e) : (shortest m e).IsNormal := by
  have hfound : 0 < searchDigits (basin m e)
      (decimalPoint (toFraction m e).1 (toFraction m e).2) 17 1 :=
    searchDigits_pos (by decide : 16 < 17) (exists_gridPoint hm he)
  obtain ⟨d, ds, hdigits, hd⟩ := Json.exists_toDigits_eq_cons hfound
  obtain ⟨ds', hds', hsub⟩ := exists_dropTrailingZeros hd ds
  have hall : ∀ c ∈ d :: ds, c.isDigit = true := hdigits ▸ Json.isDigit_of_mem_toDigits
  refine ⟨d, ds', ?_, hd, fun c hc => hall c (List.cons_subset_cons d hsub hc)⟩
  rw [← hds', ← hdigits]
  rfl

open Json

section Layouts

variable {sign : List Char} {x : Decimal}

theorem isNumber_of_parts {whole fraction exponent : List Char} (hsign : sign = [] ∨ sign = ['-'])
    (hwhole : IsWhole whole) (hfraction : IsFraction fraction) (hexponent : IsExponent exponent) :
    IsNumber (sign ++ (whole ++ (fraction ++ exponent))) :=
  ⟨sign, whole, fraction, exponent, hsign, hwhole, hfraction, hexponent, rfl⟩

theorem isNumber_of_point {whole ds : List Char} (hsign : sign = [] ∨ sign = ['-'])
    (hwhole : IsWhole whole) (hds : AreDigits ds) : IsNumber (sign ++ (whole ++ '.' :: ds)) := by
  have hparts := isNumber_of_parts hsign hwhole (.inr ⟨ds, hds, rfl⟩) (.inl rfl)
  rwa [List.append_nil] at hparts

theorem isWhole_zero : IsWhole ['0'] := isWhole_toDigits 0

theorem isWhole_cons {d : Char} {ds : List Char} (hd : d ≠ '0')
    (hds : ∀ c ∈ d :: ds, c.isDigit = true) : IsWhole (d :: ds) :=
  ⟨⟨List.cons_ne_nil _ _, hds⟩, fun hhead => absurd (Option.some.inj hhead) hd⟩

theorem isDigit_zeros (k : Nat) : ∀ c ∈ List.replicate k '0', c.isDigit = true := by
  intro c hc
  rw [List.eq_of_mem_replicate hc]
  decide

theorem Decimal.IsNormal.isNumber_positional (h : x.IsNormal) (hsign : sign = [] ∨ sign = ['-']) :
    IsNumber (sign ++ x.positional true) := by
  obtain ⟨d, ds, hdigits, hd, hall⟩ := h
  have hplain : AreDigits x.digits := hdigits ▸ ⟨List.cons_ne_nil _ _, hall⟩
  rw [Decimal.positional]
  split
  · next p hp =>
    split
    · exact isNumber_of_point hsign isWhole_zero hplain
    · next hne =>
      split
      · have hwhole : IsWhole (d :: (ds ++ List.replicate (p - x.digits.length) '0')) :=
          isWhole_cons hd fun c hc => by
            rw [← List.cons_append] at hc
            exact (List.mem_append.1 hc).elim (hall c) (isDigit_zeros _ c)
        simpa [hdigits] using isNumber_of_point hsign hwhole (areDigits_toDigits 0)
      · next hcount =>
        obtain ⟨p, rfl⟩ := Nat.exists_eq_add_of_le' (Nat.pos_of_ne_zero hne)
        have hwhole : IsWhole (d :: ds.take p) :=
          isWhole_cons hd fun c hc => hall c (List.cons_subset_cons d (List.take_subset _ _) hc)
        have hrest : AreDigits (x.digits.drop (p + 1)) :=
          ⟨by simpa [List.drop_eq_nil_iff] using hcount,
            fun c hc => hplain.2 c (List.drop_subset _ _ hc)⟩
        simpa [hdigits] using isNumber_of_point hsign hwhole hrest
  · next p hp =>
    have hfraction : AreDigits (List.replicate (p + 1) '0' ++ x.digits) := by
      refine ⟨List.append_ne_nil_of_right_ne_nil _ hplain.1, fun c hc => ?_⟩
      exact (List.mem_append.1 hc).elim (isDigit_zeros _ c) (hplain.2 c)
    exact isNumber_of_point hsign isWhole_zero hfraction

theorem Decimal.IsNormal.isNumber_scientific (h : x.IsNormal) (hsign : sign = [] ∨ sign = ['-']) :
    IsNumber (sign ++ x.scientific) := by
  obtain ⟨d, ds, hdigits, hd, hall⟩ := h
  have hwhole : IsWhole [d] :=
    isWhole_cons hd fun c hc => hall c (List.mem_singleton.1 hc ▸ List.mem_cons_self)
  have hexponent : IsExponent
      ('e' :: (if x.point - 1 < 0 then '-' else '+') :: Nat.toDigits 10 (x.point - 1).natAbs) := by
    refine .inr ⟨'e', [if x.point - 1 < 0 then '-' else '+'], _, .inl rfl, ?_,
      areDigits_toDigits _, rfl⟩
    split
    · exact .inr (.inr rfl)
    · exact .inr (.inl rfl)
  rw [Decimal.scientific, hdigits]
  cases ds with
  | nil => exact isNumber_of_parts hsign hwhole (.inl rfl) hexponent
  | cons c ds =>
    have hrest : AreDigits (c :: ds) :=
      ⟨List.cons_ne_nil _ _, fun c hc => hall c (List.mem_cons_of_mem _ hc)⟩
    exact isNumber_of_parts hsign hwhole (.inr ⟨_, hrest, rfl⟩) hexponent

/-- The text of a finite number is a number of the grammar. -/
theorem IsFinite.isNumber {x : Binary64} (h : x.IsFinite) : IsNumber x.mixedText.toList := by
  cases x with
  | finite s m e =>
    obtain ⟨hm, he, -⟩ := h
    have hbody : ∀ {sign : List Char}, sign = [] ∨ sign = ['-'] →
        IsNumber (sign ++ (if m = 0 then ['0', '.', '0'] else
        let x := shortest m e
        if -5 < x.point && x.point ≤ 16 then x.positional true else x.scientific)) := by
      intro sign hsign
      by_cases hzero : m = 0
      · rw [if_pos hzero]
        exact isNumber_of_point hsign isWhole_zero (areDigits_toDigits 0)
      · have hnormal := shortest_isNormal ⟨Nat.pos_of_ne_zero hzero, hm⟩ he
        rw [if_neg hzero]
        dsimp only
        split
        · exact hnormal.isNumber_positional hsign
        · exact hnormal.isNumber_scientific hsign
    rw [mixedText, String.toList_ofList]
    cases s with
    | false => exact hbody (.inl rfl)
    | true => exact hbody (.inr rfl)
  | infinite s => exact absurd h id
  | notANumber => exact absurd h id

end Layouts

end LiveLesson.Binary64
