import LiveLesson.Proofs.Text.Percent
import Mathlib.Tactic.IntervalCases

/-!
Reading the bytes of a text. The bytes that a character is written in are read as that character
whatever follows them, so every text comes back from its bytes.
-/

namespace LiveLesson.Text.Utf8

theorem decodeAux_skip (lossy : Bool) (acc : List Char) (skipped more : List UInt8) :
    decodeAux lossy skipped.length acc (skipped ++ more) = decodeAux lossy 0 acc more := by
  induction skipped with
  | nil => rfl
  | cons b skipped ih => exact ih

theorem toNat_toUInt8 {n : Nat} (h : n < 0x100) : n.toUInt8.toNat = n := by
  rw [Nat.toUInt8_eq, UInt8.toNat_ofNat', Nat.mod_eq_of_lt h]

theorem continueFront_step {n : Nat} (h : n < 0x40) (acc taken more : Nat) (rest : List UInt8) :
    continueFront acc taken (more + 1) ((0x80 + n).toUInt8 :: rest) =
      continueFront (acc * 64 + n) (taken + 1) more rest := by
  have hbyte : (0x80 + n).toUInt8.toNat = 0x80 + n := toNat_toUInt8 (by omega)
  have hcontinues : isContinuation (0x80 + n).toUInt8 = true := by
    simp only [isContinuation, Bool.and_eq_true, decide_eq_true_eq, UInt8.le_iff_toNat_le, hbyte]
    exact ⟨Nat.le_add_right _ _, show 0x80 + n ≤ 0xBF by omega⟩
  rw [continueFront, if_pos hcontinues, hbyte, Nat.add_sub_cancel_left]

theorem front_lead {m n : Nat} {l : Lead} (hm : 0x80 ≤ m ∧ m < 0x100) (hn : n < 0x40)
    (hlead : lead? m.toUInt8 = some l) (hlow : l.low.toNat ≤ 0x80 + n)
    (hhigh : 0x80 + n ≤ l.high.toNat) (rest : List UInt8) :
    front m.toUInt8 ((0x80 + n).toUInt8 :: rest) =
      continueFront (l.bits * 64 + n) 2 l.more rest := by
  have hbyte : m.toUInt8.toNat = m := toNat_toUInt8 hm.2
  have hsecond : (0x80 + n).toUInt8.toNat = 0x80 + n := toNat_toUInt8 (by omega)
  have hnot : ¬m.toUInt8 < 0x80 := by
    rw [UInt8.lt_iff_toNat_lt, hbyte]
    exact Nat.not_lt.2 hm.1
  have hbounds : (decide (l.low ≤ (0x80 + n).toUInt8) && decide ((0x80 + n).toUInt8 ≤ l.high)) =
      true := by
    simp only [Bool.and_eq_true, decide_eq_true_eq, UInt8.le_iff_toNat_le, hsecond]
    exact ⟨hlow, hhigh⟩
  unfold front
  rw [if_neg hnot, hlead]
  dsimp only
  rw [if_pos hbounds, hsecond, Nat.add_sub_cancel_left]

theorem lead?_two {k : Nat} (h : 2 ≤ k ∧ k < 0x20) :
    lead? (0xC0 + k).toUInt8 = some ⟨k, 0x80, 0xBF, 0⟩ := by
  have hbyte : (0xC0 + k).toUInt8.toNat = 0xC0 + k := toNat_toUInt8 (by omega)
  have hrange : (decide (0xC2 ≤ 0xC0 + k) && decide (0xC0 + k ≤ 0xDF)) = true := by simp; omega
  unfold lead?
  dsimp only
  rw [hbyte, if_pos hrange, Nat.add_sub_cancel_left]

theorem lead?_three {k n : Nat} (hk : k < 0x10) (hsmall : k = 0 → 0x20 ≤ n)
    (hsurrogate : k = 0xD → n < 0x20) (hn : n < 0x40) :
    ∃ l, lead? (0xE0 + k).toUInt8 = some l ∧ l.bits = k ∧ l.more = 1 ∧ l.low.toNat ≤ 0x80 + n ∧
      0x80 + n ≤ l.high.toNat := by
  have hall : ∀ k < 0x10, lead? (0xE0 + k).toUInt8 =
      some ⟨k, if k = 0 then 0xA0 else 0x80, if k = 0xD then 0x9F else 0xBF, 1⟩ := by
    intro k hk
    interval_cases k <;> rfl
  refine ⟨_, hall k hk, rfl, rfl, ?_, ?_⟩
  · dsimp only
    split
    · next hzero => exact (show 0xA0 ≤ 0x80 + n by have := hsmall hzero; omega)
    · exact (show 0x80 ≤ 0x80 + n by omega)
  · dsimp only
    split
    · next heq => exact (show 0x80 + n ≤ 0x9F by have := hsurrogate heq; omega)
    · exact (show 0x80 + n ≤ 0xBF by omega)

theorem lead?_four {k n : Nat} (hk : k < 5) (hsmall : k = 0 → 0x10 ≤ n) (hlarge : k = 4 → n < 0x10)
    (hn : n < 0x40) : ∃ l, lead? (0xF0 + k).toUInt8 = some l ∧ l.bits = k ∧ l.more = 2 ∧
    l.low.toNat ≤ 0x80 + n ∧
      0x80 + n ≤ l.high.toNat := by
  have hall : ∀ k < 5, lead? (0xF0 + k).toUInt8 =
      some ⟨k, if k = 0 then 0x90 else 0x80, if k = 4 then 0x8F else 0xBF, 2⟩ := by
    intro k hk
    interval_cases k <;> rfl
  refine ⟨_, hall k hk, rfl, rfl, ?_, ?_⟩
  · dsimp only
    split
    · next hzero => exact (show 0x90 ≤ 0x80 + n by have := hsmall hzero; omega)
    · exact (show 0x80 ≤ 0x80 + n by omega)
  · dsimp only
    split
    · next heq => exact (show 0x80 + n ≤ 0x8F by have := hlarge heq; omega)
    · exact (show 0x80 + n ≤ 0xBF by omega)

theorem front_encodeChar (c : Char) (more : List UInt8) :
    ∃ b bs, String.utf8EncodeChar c = b :: bs ∧ front b (bs ++ more) = .char c (bs.length + 1) := by
  have hvalid : c.toNat < 0xD800 ∨ 0xDFFF < c.toNat ∧ c.toNat < 0x110000 := c.valid
  have hwhole : ∀ n, n = c.toNat → Char.ofNat n = c := by
    rintro n rfl
    exact Char.ofNat_toNat c
  rw [← encodeChar_eq]
  unfold encodeChar
  dsimp only
  by_cases hone : c.toNat < 0x80
  · rw [if_pos hone]
    have hbyte : c.toNat.toUInt8.toNat = c.toNat := toNat_toUInt8 (by omega)
    have hlow : c.toNat.toUInt8 < 0x80 := by
      rw [UInt8.lt_iff_toNat_lt, hbyte]
      exact hone
    refine ⟨_, _, rfl, ?_⟩
    unfold front
    rw [if_pos hlow, hwhole _ hbyte]
    rfl
  rw [if_neg hone]
  by_cases htwo : c.toNat < 0x800
  · rw [if_pos htwo]
    refine ⟨_, _, rfl, ?_⟩
    rw [List.singleton_append,
      front_lead (by omega) (by omega) (lead?_two (by omega)) (show 0x80 ≤ _ by omega)
      (show _ ≤ 0xBF by omega), continueFront, hwhole _ (Nat.div_add_mod' _ _)]
    rfl
  rw [if_neg htwo]
  by_cases hthree : c.toNat < 0x10000
  · rw [if_pos hthree]
    obtain ⟨l, hlead, hbits, hmore, hlow, hhigh⟩ :=
      lead?_three (k := c.toNat / 4096) (n := c.toNat / 64 % 64) (by omega) (by omega)
        (by omega) (by omega)
    refine ⟨_, _, rfl, ?_⟩
    rw [List.cons_append, List.singleton_append, front_lead (by omega) (by omega) hlead hlow hhigh,
      hbits, hmore, continueFront_step (by omega), continueFront, hwhole _ (by omega)]
    rfl
  · rw [if_neg hthree]
    obtain ⟨l, hlead, hbits, hmore, hlow, hhigh⟩ :=
      lead?_four (k := c.toNat / 262144) (n := c.toNat / 4096 % 64) (by omega) (by omega)
        (by omega) (by omega)
    refine ⟨_, _, rfl, ?_⟩
    rw [List.cons_append, List.cons_append, List.singleton_append,
      front_lead (by omega) (by omega) hlead hlow hhigh, hbits, hmore,
      continueFront_step (by omega), continueFront_step (by omega), continueFront,
      hwhole _ (by omega)]
    rfl

theorem decodeAux_flatMap (lossy : Bool) (acc cs : List Char) :
    decodeAux lossy 0 acc (cs.flatMap String.utf8EncodeChar) = some (acc.reverse ++ cs) := by
  induction cs generalizing acc with
  | nil => simp [decodeAux]
  | cons c cs ih =>
    obtain ⟨b, bs, hbytes, hfront⟩ := front_encodeChar c (cs.flatMap String.utf8EncodeChar)
    rw [List.flatMap_cons, hbytes, List.cons_append, decodeAux, hfront]
    dsimp only
    rw [Nat.add_sub_cancel, decodeAux_skip, ih]
    simp

theorem decodeLossy_encode (s : String) : decodeLossy (encode s) = s := by
  rw [decodeLossy, encode_eq, decodeAux_flatMap]
  simp

end LiveLesson.Text.Utf8
