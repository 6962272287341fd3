import LiveLesson.Proofs.Text.Utf8
import Mathlib.Data.List.Basic
import Mathlib.Tactic.ByContra

/-!
Percent-encoding and the way back. A text spells bytes: a percent sign with two hexadecimal digits
behind it spells one, every other character its own. Encoding changes nothing about what a text
spells as long as escapes are kept, and a text spells itself exactly if it holds none.
-/

namespace LiveLesson.Text

namespace Utf8

theorem encode_eq (s : String) : encode s = s.toList.flatMap String.utf8EncodeChar := by
  rw [← encode_ofList, String.ofList_toList]

theorem encode_injective {s t : String} (h : encode s = encode t) : s = t := by
  have hdata : ∀ s : String, encode s = s.toByteArray.data.toList := fun s => by
    rw [encode, String.toUTF8_eq_toByteArray, ByteArray.toList, loop_eq]
    rfl
  rw [hdata, hdata] at h
  exact String.toByteArray_inj.1 (ByteArray.ext (Array.toList_inj.1 h))

theorem toNat_lt (c : Char) : c.toNat < 0x110000 := by
  rcases c.valid with h | h
  · exact Nat.lt_trans h (by decide)
  · exact h.2

theorem encodeChar_eq (c : Char) : encodeChar c = String.utf8EncodeChar c := by
  have hlt : c.val.toNat < 0x110000 := toNat_lt c
  have hle : ∀ m : Nat, c.val.toNat ≤ m ↔ c.val.toNat < m + 1 := fun m => Nat.lt_succ_iff.symm
  unfold encodeChar String.utf8EncodeChar
  simp only [Char.toNat, Nat.toUInt8_eq, hle, Nat.reduceAdd]
  -- The bits of the leading byte are cut off on one side only, and are few enough.
  by_cases hone : c.val.toNat < 0x80
  · rw [if_pos hone, if_pos hone]
  rw [if_neg hone, if_neg hone]
  by_cases htwo : c.val.toNat < 0x800
  · have hlead : c.val.toNat / 64 % 32 = c.val.toNat / 64 := Nat.mod_eq_of_lt (by omega)
    rw [if_pos htwo, if_pos htwo, hlead, Nat.add_comm, Nat.add_comm 0x80]
  rw [if_neg htwo, if_neg htwo]
  by_cases hthree : c.val.toNat < 0x10000
  · have hlead : c.val.toNat / 4096 % 16 = c.val.toNat / 4096 := Nat.mod_eq_of_lt (by omega)
    simp only [if_pos hthree, hlead, Nat.add_comm]
  · have hlead : c.val.toNat / 262144 % 8 = c.val.toNat / 262144 := Nat.mod_eq_of_lt (by omega)
    simp only [if_neg hthree, hlead, Nat.add_comm]

theorem utf8EncodeChar_ne_nil (c : Char) : String.utf8EncodeChar c ≠ [] := fun h =>
  absurd (congrArg List.length h) (by simpa using Nat.ne_of_gt c.utf8Size_pos)

theorem le_of_mem_utf8EncodeChar {c : Char} (hc : ¬c.toNat < 0x80) {b : UInt8}
    (hb : b ∈ String.utf8EncodeChar c) : 0x80 ≤ b.toNat := by
  have hlt := toNat_lt c
  have hbyte : ∀ m : Nat, 0x80 ≤ m → m < 0x100 → 0x80 ≤ (UInt8.ofNat m).toNat := fun m hle hm => by
    rw [UInt8.toNat_ofNat', Nat.mod_eq_of_lt hm]
    exact hle
  rw [← encodeChar_eq] at hb
  simp only [encodeChar, if_neg hc, Nat.toUInt8_eq] at hb
  split at hb
  · simp only [List.mem_cons, List.not_mem_nil, or_false] at hb
    rcases hb with rfl | rfl <;> exact hbyte _ (by omega) (by omega)
  · split at hb
    · simp only [List.mem_cons, List.not_mem_nil, or_false] at hb
      rcases hb with rfl | rfl | rfl <;> exact hbyte _ (by omega) (by omega)
    · simp only [List.mem_cons, List.not_mem_nil, or_false] at hb
      rcases hb with rfl | rfl | rfl | rfl <;> exact hbyte _ (by omega) (by omega)

end Utf8

namespace Hex

def digits : List Char := "0123456789ABCDEFabcdef".toList

theorem value?_of_mem_digits {c : Char} (h : c ∈ digits) :
    c.toNat < 0x80 ∧ (value? c.toNat.toUInt8).isSome = true := by
  have hall : digits.Forall fun c => c.toNat < 0x80 ∧
      (value? c.toNat.toUInt8).isSome = true := by decide
  exact List.forall_iff_forall_mem.1 hall c h

theorem value?_of_notMem_digits {c : Char} (h : c ∉ digits) :
    ∃ b bs, String.utf8EncodeChar c = b :: bs ∧ value? b = none := by
  by_cases hascii : c.toNat < 0x80
  · have hdigit : c ∈ digits ∨ value? c.toNat.toUInt8 = none :=
      forall_ascii c hascii (by decide +kernel)
    exact ⟨_, [], Utf8.utf8EncodeChar_of_ascii hascii, hdigit.resolve_left h⟩
  · obtain ⟨b, bs, hbytes⟩ := List.exists_cons_of_ne_nil (Utf8.utf8EncodeChar_ne_nil c)
    have hhigh : 0x80 ≤ b.toNat :=
      Utf8.le_of_mem_utf8EncodeChar hascii (hbytes ▸ List.mem_cons_self)
    have hnone : 0x80 ≤ b.toNat → value? b = none := forall_byte b (by decide +kernel)
    exact ⟨b, bs, hbytes, hnone hhigh⟩

end Hex

namespace Percent

/-- An escape begins behind a percent sign. -/
def BeginsEscape (cs : List Char) : Prop :=
  ∃ h l rest, cs = h :: l :: rest ∧ h ∈ Hex.digits ∧ l ∈ Hex.digits

def HasEscape (cs : List Char) : Prop := ∃ front back, cs = front ++ '%' :: back ∧ BeginsEscape back

/-- The bytes that a text spells. -/
inductive Spells : List Char → List UInt8 → Prop
  | nil : Spells [] []
  | escape {h l : Char} {rest : List Char} {byte : UInt8} {bytes : List UInt8} : h ∈ Hex.digits →
    l ∈ Hex.digits →
    pair? h.toNat.toUInt8 l.toNat.toUInt8 = some byte → Spells rest bytes →
    Spells ('%' :: h :: l :: rest) (byte :: bytes)
  | char {c : Char} {rest : List Char} {bytes : List UInt8} : ¬(c = '%' ∧ BeginsEscape rest) →
    Spells rest bytes →
    Spells (c :: rest) (String.utf8EncodeChar c ++ bytes)

variable {cs ds : List Char} {bytes more : List UInt8}

theorem exists_pair {h l : Char} (hh : h ∈ Hex.digits) (hl : l ∈ Hex.digits) :
    ∃ byte, pair? h.toNat.toUInt8 l.toNat.toUInt8 = some byte := by
  obtain ⟨m, hm⟩ := Option.isSome_iff_exists.1 (Hex.value?_of_mem_digits hh).2
  obtain ⟨n, hn⟩ := Option.isSome_iff_exists.1 (Hex.value?_of_mem_digits hl).2
  exact ⟨(m * 16 + n).toUInt8, by simp only [pair?, hm, hn]⟩

theorem exists_spells : (cs : List Char) → ∃ bytes, Spells cs bytes
  | [] => ⟨[], .nil⟩
  | c :: rest => by
    by_cases hescape : c = '%' ∧ BeginsEscape rest
    · obtain ⟨rfl, h, l, rest', rfl, hh, hl⟩ := hescape
      obtain ⟨byte, hbyte⟩ := exists_pair hh hl
      obtain ⟨bytes, hrest⟩ := exists_spells rest'
      exact ⟨byte :: bytes, .escape hh hl hbyte hrest⟩
    · obtain ⟨bytes, hrest⟩ := exists_spells rest
      exact ⟨_, .char hescape hrest⟩

theorem decode_cons_of_ne {b : UInt8} (hb : b ≠ 0x25) (bytes : List UInt8) :
    decode (b :: bytes) = b :: decode bytes := by
  match bytes with
  | [] => rfl
  | [_] => rfl
  | _ :: _ :: _ => rw [decode, if_neg hb]

theorem decode_append_of_notMem {front : List UInt8} (h : 0x25 ∉ front) (bytes : List UInt8) :
    decode (front ++ bytes) = front ++ decode bytes := by
  induction front with
  | nil => rfl
  | cons b front ih =>
    obtain ⟨hb, hfront⟩ : 0x25 ≠ b ∧ 0x25 ∉ front := by simpa using h
    rw [List.cons_append, decode_cons_of_ne (Ne.symm hb), ih hfront, List.cons_append]

theorem decode_percent (h : ∀ b c rest, bytes = b :: c :: rest → pair? b c = none) :
    decode (0x25 :: bytes) = 0x25 :: decode bytes := by
  match bytes, h with
  | [], _ => rfl
  | [_], _ => rfl
  | b :: c :: rest, h => rw [decode, if_pos rfl, h b c rest rfl]

theorem percent_notMem {c : Char} (hc : c ≠ '%') : 0x25 ∉ String.utf8EncodeChar c := by
  by_cases hascii : c.toNat < 0x80
  · rw [Utf8.utf8EncodeChar_of_ascii hascii, List.mem_singleton]
    intro hbyte
    have hnumber := congrArg UInt8.toNat hbyte
    rw [Nat.toUInt8_eq, UInt8.toNat_ofNat', Nat.mod_eq_of_lt (by omega)] at hnumber
    exact hc (Char.toNat_inj.1 hnumber.symm)
  · intro hmem
    exact absurd (Utf8.le_of_mem_utf8EncodeChar hascii hmem) (by decide)

theorem pair?_eq_none {b c : UInt8} (h : Hex.value? b = none ∨ Hex.value? c = none) :
    pair? b c = none := by
  unfold pair?
  rcases h with h | h
  · rw [h]
  · rw [h]
    cases Hex.value? b <;> rfl

theorem pair?_of_not_beginsEscape (h : ¬BeginsEscape cs) (b c : UInt8) (rest : List UInt8)
    (hbytes : cs.flatMap String.utf8EncodeChar = b :: c :: rest) : pair? b c = none := by
  cases cs with
  | nil => cases hbytes
  | cons x cs =>
    rw [List.flatMap_cons] at hbytes
    by_cases hx : x ∈ Hex.digits
    · rw [Utf8.utf8EncodeChar_of_ascii (Hex.value?_of_mem_digits hx).1, List.singleton_append,
        List.cons.injEq] at hbytes
      cases cs with
      | nil => cases hbytes.2
      | cons y cs =>
        have hy : y ∉ Hex.digits := fun hy => h ⟨x, y, cs, rfl, hx, hy⟩
        obtain ⟨d, ds, hfirst, hnone⟩ := Hex.value?_of_notMem_digits hy
        rw [List.flatMap_cons, hfirst, List.cons_append, List.cons.injEq] at hbytes
        exact pair?_eq_none (.inr (hbytes.2.1 ▸ hnone))
    · obtain ⟨d, ds, hfirst, hnone⟩ := Hex.value?_of_notMem_digits hx
      rw [hfirst, List.cons_append, List.cons.injEq] at hbytes
      exact pair?_eq_none (.inl (hbytes.1 ▸ hnone))

theorem Spells.decode_flatMap (h : Spells cs bytes) :
    decode (cs.flatMap String.utf8EncodeChar) = bytes := by
  induction h with
  | nil => rfl
  | escape hh hl hbyte _ ih =>
    rw [List.flatMap_cons, List.flatMap_cons, List.flatMap_cons,
      Utf8.utf8EncodeChar_of_ascii (by decide),
      Utf8.utf8EncodeChar_of_ascii (Hex.value?_of_mem_digits hh).1,
      Utf8.utf8EncodeChar_of_ascii (Hex.value?_of_mem_digits hl).1]
    simp only [List.singleton_append]
    rw [decode, if_pos (by decide), hbyte, ih]
  | @char c rest bytes hescape _ ih =>
    rw [List.flatMap_cons]
    by_cases hc : c = '%'
    · subst hc
      have hnone : ¬BeginsEscape rest := fun hbegins => hescape ⟨rfl, hbegins⟩
      rw [← ih]
      exact decode_percent (pair?_of_not_beginsEscape hnone)
    · rw [decode_append_of_notMem (percent_notMem hc), ih]

theorem Spells.decode_encode (h : Spells cs bytes) :
    decode (Utf8.encode (String.ofList cs)) = bytes := by
  rw [Utf8.encode_ofList, h.decode_flatMap]

/-- An encoder that keeps what escapes are made of. -/
structure KeepsEscapes (stays : Char → Bool) : Prop where
  percent : stays '%' = true
  digits : ∀ c ∈ Hex.digits, stays c = true

instance (stays : Char → Bool) : Decidable (KeepsEscapes stays) :=
  decidable_of_iff (stays '%' = true ∧ Hex.digits.all stays = true)
    ⟨fun h => ⟨h.1, List.all_eq_true.1 h.2⟩, fun h => ⟨h.percent, List.all_eq_true.2 h.digits⟩⟩

variable {stays : Char → Bool}

theorem exists_byteDigits (b : UInt8) :
    ∃ h l, Hex.byteDigits Hex.upperDigits b = [h, l] ∧ h ∈ Hex.digits ∧
    l ∈ Hex.digits ∧ pair? h.toNat.toUInt8 l.toNat.toUInt8 = some b := by
  have hdigit : ∀ n < 16, Hex.digit Hex.upperDigits n ∈ Hex.digits ∧
      Hex.value? (Hex.digit Hex.upperDigits n).toNat.toUInt8 = some n := by decide
  have hb : b.toNat < 256 := b.toNat_lt
  obtain ⟨hhigh, hhighValue⟩ := hdigit (b.toNat / 16) (by omega)
  obtain ⟨hlow, hlowValue⟩ := hdigit (b.toNat % 16) (Nat.mod_lt _ (by decide))
  have hsame : Hex.digit Hex.upperDigits b.toNat = Hex.digit Hex.upperDigits (b.toNat % 16) := by
    rw [Hex.digit, Hex.digit, Nat.mod_mod]
  rw [← hsame] at hlow hlowValue
  refine ⟨_, _, rfl, hhigh, hlow, ?_⟩
  have hwhole : b.toNat / 16 * 16 + b.toNat % 16 = b.toNat := Nat.div_add_mod' b.toNat 16
  simp only [pair?, hhighValue, hlowValue, hwhole, Nat.toUInt8_eq, UInt8.ofNat_toNat]

theorem Spells.encodeByte (b : UInt8) (h : Spells cs bytes) :
    Spells (encodeByte b ++ cs) (b :: bytes) := by
  obtain ⟨high, low, hdigits, hhigh, hlow, hpair⟩ := exists_byteDigits b
  rw [Percent.encodeByte, hdigits]
  exact .escape hhigh hlow hpair h

theorem Spells.encodeBytes (bs : List UInt8) (h : Spells cs bytes) :
    Spells (bs.flatMap Percent.encodeByte ++ cs) (bs ++ bytes) := by
  induction bs with
  | nil => exact h
  | cons b bs ih =>
    rw [List.flatMap_cons, List.append_assoc]
    exact ih.encodeByte b

theorem encodeChar_of_stays {c : Char} (h : stays c = true) : encodeChar stays c = [c] := if_pos h

theorem notMem_digits_encodeChar (stays : Char → Bool) {c : Char} (hc : c ∉ Hex.digits) :
    ∃ x xs, encodeChar stays c = x :: xs ∧ x ∉ Hex.digits := by
  by_cases hstays : stays c = true
  · exact ⟨c, [], encodeChar_of_stays hstays, hc⟩
  · obtain ⟨b, bs, hbytes⟩ := List.exists_cons_of_ne_nil (Utf8.utf8EncodeChar_ne_nil c)
    rw [encodeChar, if_neg hstays, Utf8.encodeChar_eq, hbytes, List.flatMap_cons]
    exact ⟨'%', _, rfl, by decide⟩

theorem not_beginsEscape_encode (hstays : KeepsEscapes stays) (h : ¬BeginsEscape cs) :
    ¬BeginsEscape (encode stays cs) := by
  rintro ⟨h', l', rest', hencoded, hh', hl'⟩
  cases cs with
  | nil => cases hencoded
  | cons x cs =>
    rw [encode, List.flatMap_cons] at hencoded
    by_cases hx : x ∈ Hex.digits
    · rw [encodeChar_of_stays (hstays.digits x hx), List.singleton_append,
        List.cons.injEq] at hencoded
      cases cs with
      | nil => cases hencoded.2
      | cons y cs =>
        have hy : y ∉ Hex.digits := fun hy => h ⟨x, y, cs, rfl, hx, hy⟩
        obtain ⟨z, zs, hfirst, hz⟩ := notMem_digits_encodeChar stays hy
        rw [List.flatMap_cons, hfirst, List.cons_append, List.cons.injEq] at hencoded
        exact hz (hencoded.2.1 ▸ hl')
    · obtain ⟨z, zs, hfirst, hz⟩ := notMem_digits_encodeChar stays hx
      rw [hfirst, List.cons_append, List.cons.injEq] at hencoded
      exact hz (hencoded.1 ▸ hh')

theorem Spells.encode (hstays : KeepsEscapes stays) (h : Spells cs bytes) :
    Spells (encode stays cs) bytes := by
  induction h with
  | nil => exact .nil
  | escape hh hl hbyte _ ih =>
    rw [Percent.encode, List.flatMap_cons, List.flatMap_cons, List.flatMap_cons,
      encodeChar_of_stays hstays.percent, encodeChar_of_stays (hstays.digits _ hh),
      encodeChar_of_stays (hstays.digits _ hl)]
    exact .escape hh hl hbyte ih
  | @char c rest bytes hescape _ ih =>
    rw [Percent.encode, List.flatMap_cons]
    by_cases hc : stays c = true
    · rw [encodeChar_of_stays hc]
      exact .char (fun hbegins => not_beginsEscape_encode hstays (fun h => hescape ⟨hbegins.1, h⟩)
        hbegins.2) ih
    · rw [encodeChar, if_neg hc, Utf8.encodeChar_eq]
      exact ih.encodeBytes _

theorem of_mem_encode {c : Char} (h : c ∈ Percent.encode stays cs) :
    (c ∈ cs ∧ stays c = true) ∨ c = '%' ∨ c ∈ Hex.digits := by
  obtain ⟨x, hx, hc⟩ := List.mem_flatMap.1 h
  by_cases hkept : stays x = true
  · rw [encodeChar_of_stays hkept, List.mem_singleton] at hc
    exact .inl ⟨hc ▸ hx, hc ▸ hkept⟩
  · rw [encodeChar, if_neg hkept] at hc
    obtain ⟨b, _, hc⟩ := List.mem_flatMap.1 hc
    obtain ⟨high, low, hdigits, hhigh, hlow, _⟩ := exists_byteDigits b
    rw [encodeByte, hdigits] at hc
    simp only [List.mem_cons, List.not_mem_nil, or_false] at hc
    rcases hc with rfl | rfl | rfl
    · exact .inr (.inl rfl)
    · exact .inr (.inr hhigh)
    · exact .inr (.inr hlow)

theorem stays_of_mem_encode (hstays : KeepsEscapes stays) {c : Char}
    (h : c ∈ Percent.encode stays cs) : stays c = true := by
  rcases of_mem_encode h with h | rfl | h
  · exact h.2
  · exact hstays.percent
  · exact hstays.digits c h

theorem encode_of_stays (h : ∀ c ∈ cs, stays c = true) : Percent.encode stays cs = cs := by
  induction cs with
  | nil => rfl
  | cons c cs ih =>
    obtain ⟨hc, hcs⟩ := List.forall_mem_cons.1 h
    rw [Percent.encode, List.flatMap_cons, encodeChar_of_stays hc]
    exact congrArg (c :: ·) (ih hcs)

theorem hasEscape_cons_iff {c : Char} :
    HasEscape (c :: cs) ↔ (c = '%' ∧ BeginsEscape cs) ∨ HasEscape cs := by
  constructor
  · rintro ⟨front, back, hsplit, hbegins⟩
    cases front with
    | nil =>
      obtain ⟨rfl, rfl⟩ := List.cons_eq_cons.1 hsplit
      exact .inl ⟨rfl, hbegins⟩
    | cons x front =>
      obtain ⟨rfl, rfl⟩ := List.cons_eq_cons.1 hsplit
      exact .inr ⟨front, back, rfl, hbegins⟩
  · rintro (⟨rfl, hbegins⟩ | ⟨front, back, rfl, hbegins⟩)
    · exact ⟨[], cs, rfl, hbegins⟩
    · exact ⟨c :: front, back, rfl, hbegins⟩

theorem not_hasEscape_of_notMem (h : '%' ∉ cs) : ¬HasEscape cs := by
  rintro ⟨front, back, rfl, -⟩
  simp at h

/-- An escape spells fewer bytes than it has. -/
theorem Spells.length (h : Spells cs bytes) :
    bytes.length ≤ (cs.flatMap String.utf8EncodeChar).length ∧
    (HasEscape cs → bytes.length < (cs.flatMap String.utf8EncodeChar).length) := by
  induction h with
  | nil => exact ⟨Nat.le_refl _, fun ⟨front, back, hnil, _⟩ => by simp at hnil⟩
  | @escape h l _ _ _ _ _ _ _ ih =>
    have hone : ∀ c : Char, 0 < (String.utf8EncodeChar c).length := fun c =>
      List.length_pos_iff.2 (Utf8.utf8EncodeChar_ne_nil c)
    have hpercent := hone '%'
    have hhigh := hone h
    have hlow := hone l
    simp only [List.flatMap_cons, List.length_append, List.length_cons]
    refine ⟨?_, fun _ => ?_⟩ <;> omega
  | char hescape _ ih =>
    simp only [List.flatMap_cons, List.length_append]
    refine ⟨by omega, fun hhas => ?_⟩
    have hlt := ih.2 ((hasEscape_cons_iff.1 hhas).resolve_left hescape)
    omega

theorem Spells.eq_of_not_hasEscape (h : Spells cs bytes) (hnone : ¬HasEscape cs) :
    bytes = cs.flatMap String.utf8EncodeChar := by
  induction h with
  | nil => rfl
  | escape hh hl _ _ _ =>
    exact absurd (hasEscape_cons_iff.2 (.inl ⟨rfl, _, _, _, rfl, hh, hl⟩)) hnone
  | char _ _ ih => rw [List.flatMap_cons, ih fun hrest => hnone (hasEscape_cons_iff.2 (.inr hrest))]

/-- A text spells itself exactly if it holds no escape. -/
theorem Spells.eq_iff (h : Spells cs bytes) :
    bytes = cs.flatMap String.utf8EncodeChar ↔ ¬HasEscape cs := by
  refine ⟨fun heq hhas => ?_, h.eq_of_not_hasEscape⟩
  have hlt := h.length.2 hhas
  rw [heq] at hlt
  exact Nat.lt_irrefl _ hlt

theorem Spells.append {c : Char} (hdigit : c ∉ Hex.digits) (hpercent : c ≠ '%')
    (h : Spells cs bytes) (hmore : Spells ds more) :
    Spells (cs ++ c :: ds) (bytes ++ String.utf8EncodeChar c ++ more) := by
  induction h with
  | nil => exact .char (fun hbegins => hpercent hbegins.1) hmore
  | escape hh hl hbyte _ ih => exact .escape hh hl hbyte ih
  | @char x rest bytes hescape _ ih =>
    rw [List.append_assoc, List.append_assoc, ← List.append_assoc bytes]
    refine .char (fun hbegins => hescape ⟨hbegins.1, ?_⟩) ih
    -- The character ends what an escape may reach to.
    obtain ⟨h', l', rest', hsplit, hh, hl⟩ := hbegins.2
    match rest, hsplit with
    | [], hsplit => exact absurd ((List.cons.inj hsplit).1 ▸ hh) hdigit
    | [_], hsplit => exact absurd ((List.cons.inj (List.cons.inj hsplit).2).1 ▸ hl) hdigit
    | y :: z :: rest, hsplit =>
      obtain ⟨hy, hsplit⟩ := List.cons.inj hsplit
      obtain ⟨hz, _⟩ := List.cons.inj hsplit
      exact ⟨y, z, rest, rfl, hy ▸ hh, hz ▸ hl⟩

def spelt (cs : List Char) : List UInt8 := decode (Utf8.encode (String.ofList cs))

theorem Spells.spelt_eq (h : Spells cs bytes) : spelt cs = bytes := h.decode_encode

theorem spells_spelt (cs : List Char) : Spells cs (spelt cs) := by
  obtain ⟨bytes, h⟩ := exists_spells cs
  rwa [h.spelt_eq]

theorem spelt_encode (hstays : KeepsEscapes stays) (cs : List Char) :
    spelt (Percent.encode stays cs) = spelt cs :=
  ((spells_spelt cs).encode hstays).spelt_eq

theorem spelt_append {c : Char} (hdigit : c ∉ Hex.digits) (hpercent : c ≠ '%') (cs ds : List Char) :
    spelt (cs ++ c :: ds) = spelt cs ++ String.utf8EncodeChar c ++ spelt ds :=
  ((spells_spelt cs).append hdigit hpercent (spells_spelt ds)).spelt_eq

theorem spelt_eq_encode_iff (s : String) :
    spelt s.toList = Utf8.encode s ↔ ¬HasEscape s.toList := by
  rw [Utf8.encode_eq]
  exact (spells_spelt s.toList).eq_iff

end Percent

end LiveLesson.Text
