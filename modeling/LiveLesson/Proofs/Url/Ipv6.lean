import LiveLesson.Proofs.Text.Percent
import LiveLesson.Proofs.Text.Trim
import LiveLesson.Url.Ipv6

/-!
IPv6 addresses and their text. What is read as an address has eight groups of sixteen bits, and the
text of such groups, with the longest run of zeros left out, is read back to them.
-/

namespace LiveLesson.Url.Ipv6

open Text

structure IsAddress (groups : List Nat) : Prop where
  length : groups.length = 8
  bits : ∀ g ∈ groups, g < 65536

def push? (acc : Nat) (c : Char) : Option Nat :=
  (if c.toNat < 0x80 then Hex.value? c.toNat.toUInt8 else none).map (acc * 16 + ·)

theorem group?_eq (cs : List Char) :
    group? cs = if cs.isEmpty || 4 < cs.length then none else cs.foldlM push? 0 := by
  have hstep : push? = fun acc c => do
      let d ← if c.toNat < 0x80 then Hex.value? c.toNat.toUInt8 else none
      return acc * 16 + d := by
    funext acc c
    unfold push?
    split
    · cases Hex.value? c.toNat.toUInt8 <;> rfl
    · rfl
  rw [hstep]
  rfl

theorem value?_lt {b : UInt8} {n : Nat} (h : Hex.value? b = some n) : n < 16 := by
  have hsmall : (Hex.value? b).all (· < 16) = true := forall_byte b (by decide +kernel)
  rw [h] at hsmall
  simpa using hsmall

theorem lt_of_push? {acc n : Nat} {c : Char} (h : push? acc c = some n) : n < (acc + 1) * 16 := by
  obtain ⟨d, hd, rfl⟩ := Option.map_eq_some_iff.1 h
  split at hd
  · have hlt := value?_lt hd
    omega
  · cases hd

theorem lt_of_foldlM_push? {cs : List Char} {acc n : Nat} (h : cs.foldlM push? acc = some n) :
    n < (acc + 1) * 16 ^ cs.length := by
  induction cs generalizing acc with
  | nil =>
    cases h
    simp
  | cons c cs ih =>
    rw [List.foldlM_cons] at h
    obtain ⟨next, hnext, hrest⟩ := Option.bind_eq_some_iff.1 h
    calc n < (next + 1) * 16 ^ cs.length := ih hrest
      _ ≤ (acc + 1) * 16 * 16 ^ cs.length := Nat.mul_le_mul_right _ (lt_of_push? hnext)
      _ = (acc + 1) * 16 ^ (c ::
        cs).length := by rw [List.length_cons, Nat.pow_succ, Nat.mul_assoc, Nat.mul_comm 16]

theorem group?_lt {cs : List Char} {g : Nat} (h : group? cs = some g) : g < 65536 := by
  rw [group?_eq] at h
  split at h
  · cases h
  · next hshape =>
    have hlength : cs.length ≤ 4 := by
      simp only [Bool.or_eq_true, decide_eq_true_eq, not_or, Nat.not_lt] at hshape
      exact hshape.2
    calc g < (0 + 1) * 16 ^ cs.length := lt_of_foldlM_push? h
      _ ≤ 65536 := by
        rw [Nat.zero_add, Nat.one_mul]
        exact Nat.pow_le_pow_right (by decide) hlength

theorem foldlM_push?_toDigits (g : Nat) :
    (Nat.toDigits 16 g).foldlM push? 0 = some g ∧ ∀ c ∈ Nat.toDigits 16 g, c ∈ Hex.digits := by
  have hvalue : ∀ d < 16, d.digitChar ∈ Hex.digits ∧ d.digitChar.toNat < 0x80 ∧
      Hex.value? d.digitChar.toNat.toUInt8 = some d := by decide
  have hdigit : ∀ d < 16, d.digitChar ∈ Hex.digits ∧
      ∀ acc, push? acc d.digitChar = some (acc * 16 + d) := by
    intro d hd
    obtain ⟨hmem, hascii, hread⟩ := hvalue d hd
    exact ⟨hmem, fun acc => by rw [push?, if_pos hascii, hread]; rfl⟩
  induction g using Nat.strong_induction_on with
  | _ g ih =>
    by_cases hsmall : g < 16
    · obtain ⟨hmem, hpush⟩ := hdigit g hsmall
      rw [Nat.toDigits_of_lt_base hsmall]
      exact ⟨by simpa using hpush 0, by simpa using hmem⟩
    · obtain ⟨hread, hmem⟩ := ih (g / 16) (Nat.div_lt_self (by omega) (by decide))
      obtain ⟨hlast, hpush⟩ := hdigit (g % 16) (Nat.mod_lt g (by decide))
      rw [Nat.toDigits_of_base_le (by decide) (Nat.le_of_not_lt hsmall), List.foldlM_append, hread]
      refine ⟨?_, fun c hc => ?_⟩
      · have hwhole : g / 16 * 16 + g % 16 = g := Nat.div_add_mod' g 16
        simpa [hwhole] using hpush (g / 16)
      · rcases List.mem_append.1 hc with hc | hc
        · exact hmem c hc
        · rw [List.mem_singleton.1 hc]
          exact hlast

theorem group?_toDigits {g : Nat} (h : g < 65536) : group? (Nat.toDigits 16 g) = some g := by
  have hlength : (Nat.toDigits 16 g).length ≤ 4 :=
    (Nat.length_toDigits_le_iff (by decide) (by decide)).2 h
  have hshape : ¬((Nat.toDigits 16 g).isEmpty || 4 < (Nat.toDigits 16 g).length) = true := by
    simp [Nat.toDigits_ne_nil, hlength]
  rw [group?_eq, if_neg hshape]
  exact (foldlM_push?_toDigits g).1

theorem colon_notMem_toDigits (g : Nat) : ':' ∉ Nat.toDigits 16 g := fun h =>
  absurd ((foldlM_push?_toDigits g).2 _ h) (by decide)

def joined (groups : List Nat) : List Char := [':'].intercalate (groups.map (Nat.toDigits 16))

theorem toList_intercalate_groupText (groups : List Nat) :
    (":".intercalate (groups.map groupText)).toList = joined groups := by
  simp [joined, groupText, Function.comp_def]

variable {groups : List Nat}

theorem split_joined (hne : groups ≠ []) :
    split ':' (joined groups) = groups.map (Nat.toDigits 16) := by
  rw [split_eq_splitOn, joined]
  refine List.splitOn_intercalate ':' (fun piece hpiece => ?_) (by simpa using hne)
  obtain ⟨g, _, rfl⟩ := List.mem_map.1 hpiece
  exact colon_notMem_toDigits g

theorem joined_cons_cons (g g' : Nat) (groups : List Nat) :
    joined (g :: g' :: groups) = Nat.toDigits 16 g ++ ':' :: joined (g' :: groups) := by
  simp [joined, List.intercalate_cons_cons]

theorem joined_ne_nil (hne : groups ≠ []) : joined groups ≠ [] := by
  match groups, hne with
  | [g], _ => simp [joined]
  | g :: g' :: groups, _ => simp [joined_cons_cons]

theorem isEmpty_joined (groups : List Nat) : (joined groups).isEmpty = groups.isEmpty := by
  cases groups with
  | nil => rfl
  | cons g groups => simp [joined_ne_nil]

theorem groupsOf?_map_toDigits (h : ∀ g ∈ groups, g < 65536) :
    groupsOf? (groups.map (Nat.toDigits 16)) = some groups := by
  induction groups with
  | nil => rfl
  | cons g groups ih =>
    obtain ⟨hg, hgroups⟩ := List.forall_mem_cons.1 h
    cases groups with
    | nil => simp [groupsOf?, group?_toDigits hg]
    | cons g' groups =>
      have hrest := ih hgroups
      rw [List.map_cons] at hrest
      simp [groupsOf?, group?_toDigits hg, hrest]

theorem mapM_group?_toDigits (h : ∀ g ∈ groups, g < 65536) :
    (groups.map (Nat.toDigits 16)).mapM group? = some groups := by
  induction groups with
  | nil => rfl
  | cons g groups ih =>
    obtain ⟨hg, hgroups⟩ := List.forall_mem_cons.1 h
    simp [List.mapM_cons, group?_toDigits hg, ih hgroups]

theorem plainSide?_joined (h : ∀ g ∈ groups, g < 65536) :
    plainSide? (joined groups) = some groups := by
  rw [plainSide?, isEmpty_joined]
  cases groups with
  | nil => rfl
  | cons g groups =>
    rw [split_joined (by simp), mapM_group?_toDigits h]
    rfl

theorem side?_joined (h : ∀ g ∈ groups, g < 65536) : side? (joined groups) = some groups := by
  rw [side?, isEmpty_joined]
  cases groups with
  | nil => rfl
  | cons g groups =>
    rw [split_joined (by simp), groupsOf?_map_toDigits h]
    rfl

theorem cutGap_cons {c : Char} {cs : List Char} (h : c = ':' → ∀ rest, cs ≠ ':' :: rest) :
    cutGap (c :: cs) = (c :: (cutGap cs).1, (cutGap cs).2) := by
  rw [cutGap]
  intro rest hcolon hrest
  exact h hcolon rest hrest

theorem cutGap_append_of_notMem {piece : List Char} (h : ':' ∉ piece) (tail : List Char) :
    cutGap (piece ++ tail) = (piece ++ (cutGap tail).1, (cutGap tail).2) := by
  induction piece with
  | nil => rfl
  | cons c piece ih =>
    obtain ⟨hc, hpiece⟩ : ':' ≠ c ∧ ':' ∉ piece := by simpa using h
    rw [List.cons_append, cutGap_cons fun hcolon => absurd hcolon.symm hc, ih hpiece,
      List.cons_append]

theorem joined_append_ne (g : Nat) (groups : List Nat) (tail rest : List Char) :
    joined (g :: groups) ++ tail ≠ ':' :: rest := by
  obtain ⟨c, cs, hdigits⟩ := List.exists_cons_of_ne_nil (Nat.toDigits_ne_nil (n := g) (b := 16))
  have hc : c ≠ ':' := by
    rintro rfl
    exact colon_notMem_toDigits g (hdigits ▸ List.mem_cons_self)
  cases groups with
  | nil => simp [joined, hdigits, hc]
  | cons g' groups => simp [joined_cons_cons, hdigits, hc]

theorem cutGap_joined_append (groups : List Nat) (tail : List Char) :
    cutGap (joined groups ++ tail) = (joined groups ++ (cutGap tail).1, (cutGap tail).2) := by
  induction groups with
  | nil => rfl
  | cons g groups ih =>
    cases groups with
    | nil => simpa [joined] using cutGap_append_of_notMem (colon_notMem_toDigits g) tail
    | cons g' groups =>
      rw [joined_cons_cons, List.append_assoc, cutGap_append_of_notMem (colon_notMem_toDigits g),
        List.cons_append, cutGap_cons fun _ => joined_append_ne g' groups tail, ih,
        List.append_assoc, List.cons_append]

theorem cutGap_joined (groups : List Nat) : cutGap (joined groups) = (joined groups, none) := by
  simpa [cutGap] using cutGap_joined_append groups []

theorem zeros_spec (groups : List Nat) :
    ∃ back, groups = List.replicate (zeros groups) 0 ++ back := by
  refine ⟨groups.dropWhile (· == 0), ?_⟩
  have hzeros : groups.takeWhile (· == 0) = List.replicate (zeros groups) 0 :=
    List.eq_replicate_of_mem fun g hg => by simpa using List.all_eq_true.1 List.all_takeWhile g hg
  rw [← hzeros, List.takeWhile_append_dropWhile]

theorem longestRun_spec (start : Nat) (groups : List Nat) (h : 0 < (longestRun start groups).2) :
    ∃ front back, groups = front ++ List.replicate (longestRun start groups).2 0 ++ back ∧
      (longestRun start groups).1 = start + front.length := by
  induction groups generalizing start with
  | nil => cases h
  | cons g groups ih =>
    unfold longestRun at h ⊢
    dsimp only at h ⊢
    split
    · obtain ⟨back, hback⟩ := zeros_spec (g :: groups)
      exact ⟨[], back, hback, rfl⟩
    · next hlater =>
      rw [if_neg hlater] at h
      obtain ⟨front, back, hgroups, hstart⟩ := ih (start + 1) h
      refine ⟨g :: front, back, ?_, ?_⟩
      · rw [List.cons_append, List.cons_append, ← hgroups]
      · rw [hstart, List.length_cons]
        omega

theorem byte?_le {cs : List Char} {n : Nat} (h : byte? cs = some n) : n ≤ 255 := by
  unfold byte? at h
  dsimp only at h
  split at h
  · cases h
  · split at h
    · cases h
      assumption
    · cases h

theorem bytesAsGroups?_lt {cs : List Char} (h : bytesAsGroups? cs = some groups) :
    ∀ g ∈ groups, g < 65536 := by
  unfold bytesAsGroups? at h
  split at h
  · next a b c d hbytes =>
    cases h
    have hle : ∀ n, some n ∈ (split '.' cs).map byte? → n ≤ 255 := fun n hn => by
      obtain ⟨piece, _, hread⟩ := List.mem_map.1 hn
      exact byte?_le hread
    rw [hbytes] at hle
    have ha := hle a (by simp)
    have hb := hle b (by simp)
    have hc := hle c (by simp)
    have hd := hle d (by simp)
    intro g hg
    simp only [List.mem_cons, List.not_mem_nil, or_false] at hg
    omega
  · cases h

theorem groupsOf?_lt {pieces : List (List Char)} (h : groupsOf? pieces = some groups) :
    ∀ g ∈ groups, g < 65536 := by
  induction pieces generalizing groups with
  | nil =>
    cases h
    simp
  | cons piece pieces ih =>
    cases pieces with
    | nil =>
      rcases Option.or_eq_some_iff.1 h with h | ⟨_, h⟩
      · obtain ⟨g, hg, rfl⟩ := Option.map_eq_some_iff.1 h
        simpa using group?_lt hg
      · exact bytesAsGroups?_lt h
    | cons next pieces =>
      obtain ⟨g, hg, h⟩ := Option.bind_eq_some_iff.1 h
      obtain ⟨rest, hrest, h⟩ := Option.bind_eq_some_iff.1 h
      cases h
      exact List.forall_mem_cons.2 ⟨group?_lt hg, ih hrest⟩

theorem side?_lt {cs : List Char} (h : side? cs = some groups) : ∀ g ∈ groups, g < 65536 := by
  unfold side? at h
  split at h
  · cases h
    simp
  · exact groupsOf?_lt h

theorem plainSide?_lt {cs : List Char} (h : plainSide? cs = some groups) :
    ∀ g ∈ groups, g < 65536 := by
  have hall : ∀ {pieces : List (List Char)} {groups : List Nat}, pieces.mapM group? = some groups →
      ∀ g ∈ groups, g < 65536 := by
    intro pieces
    induction pieces with
    | nil =>
      intro groups h
      cases h
      simp
    | cons piece pieces ih =>
      intro groups h
      rw [List.mapM_cons] at h
      obtain ⟨g, hg, h⟩ := Option.bind_eq_some_iff.1 h
      obtain ⟨rest, hrest, h⟩ := Option.bind_eq_some_iff.1 h
      cases h
      exact List.forall_mem_cons.2 ⟨group?_lt hg, ih hrest⟩
  unfold plainSide? at h
  split at h
  · cases h
    simp
  · exact hall h

theorem isAddress_of_parse? {cs : List Char} (h : parse? cs = some groups) : IsAddress groups := by
  unfold parse? at h
  split at h
  · obtain ⟨whole, hwhole, h⟩ := Option.bind_eq_some_iff.1 h
    split at h
    · next hlength =>
      cases h
      exact ⟨hlength, groupsOf?_lt hwhole⟩
    · cases h
  · obtain ⟨left, hleft, h⟩ := Option.bind_eq_some_iff.1 h
    obtain ⟨right, hright, h⟩ := Option.bind_eq_some_iff.1 h
    split at h
    · next hlength =>
      cases h
      refine ⟨by simp; omega, fun g hg => ?_⟩
      simp only [List.mem_append, List.mem_replicate] at hg
      rcases hg with (hg | ⟨_, rfl⟩) | hg
      · exact plainSide?_lt hleft g hg
      · decide
      · exact side?_lt hright g hg
    · cases h

/-- The text of groups shows all of them, or leaves out a run of zeros. -/
theorem toList_toText (groups : List Nat) : (toText groups).toList = joined groups ∨
    ∃ front back, ∃ n, 2 ≤ n ∧ groups = front ++ List.replicate n 0 ++ back ∧
      (toText groups).toList = joined front ++ ':' :: ':' :: joined back := by
  obtain ⟨⟨start, size⟩, hrun⟩ : ∃ run, longestRun 0 groups = run := ⟨_, rfl⟩
  have hspec := longestRun_spec 0 groups
  rw [hrun] at hspec
  by_cases hshort : size < 2
  · refine .inl ?_
    simp only [toText, hrun, if_pos hshort, toList_intercalate_groupText]
  · obtain ⟨front, back, hgroups, hstart⟩ := hspec (by dsimp only; omega)
    have htake : groups.take start = front := by
      rw [hgroups, List.append_assoc]
      exact List.take_left' (by simpa using hstart.symm)
    have hdrop : groups.drop (start + size) = back := by
      rw [hgroups]
      refine List.drop_left' ?_
      rw [List.length_append, List.length_replicate]
      simpa using hstart.symm
    refine .inr ⟨front, back, size, Nat.le_of_not_lt hshort, hgroups, ?_⟩
    simp only [toText, hrun, if_neg hshort, htake, hdrop, String.toList_append,
      toList_intercalate_groupText]
    simp

theorem parse?_toText (h : IsAddress groups) : parse? (toText groups).toList = some groups := by
  rcases toList_toText groups with htext | ⟨front, back, n, hn, hgroups, htext⟩
  · have hne : groups ≠ [] := by
      rintro rfl
      exact absurd h.length (by decide)
    rw [htext, parse?, cutGap_joined]
    simp [split_joined hne, groupsOf?_map_toDigits h.bits, h.length]
  · have hlength := h.length
    rw [hgroups] at hlength
    simp only [List.length_append, List.length_replicate] at hlength
    have hfront : ∀ g ∈ front, g < 65536 := fun g hg => h.bits g (by simp [hgroups, hg])
    have hback : ∀ g ∈ back, g < 65536 := fun g hg => h.bits g (by simp [hgroups, hg])
    have hn' : 8 - front.length - back.length = n := by omega
    rw [htext, parse?, cutGap_joined_append]
    simp only [cutGap, List.append_nil]
    rw [plainSide?_joined hfront, side?_joined hback]
    simp [hn', hgroups]
    omega

theorem mem_joined {c : Char} (h : c ∈ joined groups) : c = ':' ∨ c ∈ Hex.digits := by
  induction groups with
  | nil => cases h
  | cons g groups ih =>
    cases groups with
    | nil => exact .inr ((foldlM_push?_toDigits g).2 c (by simpa [joined] using h))
    | cons g' groups =>
      rw [joined_cons_cons] at h
      rcases List.mem_append.1 h with h | h
      · exact .inr ((foldlM_push?_toDigits g).2 c h)
      · rcases List.mem_cons.1 h with h | h
        · exact .inl h
        · exact ih h

theorem mem_toText {c : Char} (h : c ∈ (toText groups).toList) : c = ':' ∨ c ∈ Hex.digits := by
  rcases toList_toText groups with htext | ⟨front, back, n, hn, hgroups, htext⟩
  · rw [htext] at h
    exact mem_joined h
  · rw [htext] at h
    simp only [List.mem_append, List.mem_cons] at h
    rcases h with h | h | h | h
    · exact mem_joined h
    · exact .inl h
    · exact .inl h
    · exact mem_joined h

end LiveLesson.Url.Ipv6
