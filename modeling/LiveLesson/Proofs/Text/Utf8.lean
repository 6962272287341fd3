import LiveLesson.Text.Percent
import Mathlib.Algebra.Order.BigOperators.Group.List
import Mathlib.Algebra.Order.Group.Nat

/-!
Texts as bytes. A text has at least as many bytes as characters and at most four times as many, and
a text of ASCII characters without percent signs comes back as it is when its bytes are
percent-decoded and read.
-/

namespace LiveLesson.Text

@[elab_as_elim]
theorem forall_ascii {p : Char → Prop} (c : Char) (hc : c.toNat < 0x80)
    (h : ∀ n < 0x80, p (Char.ofNat n)) : p c := by
  have hp := h c.toNat hc
  rwa [Char.ofNat_toNat] at hp

@[elab_as_elim]
theorem forall_byte {p : UInt8 → Prop} (b : UInt8) (h : ∀ n < 0x100, p n.toUInt8) : p b := by
  have hp := h b.toNat b.toNat_lt
  rwa [Nat.toUInt8_eq, UInt8.ofNat_toNat] at hp

namespace Utf8

theorem loop_eq (bytes : ByteArray) (i : Nat) (acc : List UInt8) :
    ByteArray.toList.loop bytes i acc = acc.reverse ++ bytes.data.toList.drop i := by
  fun_induction ByteArray.toList.loop bytes i acc with
  | case1 i acc h ih =>
    have hdrop : bytes.data.toList.drop i = bytes.get! i :: bytes.data.toList.drop (i + 1) := by
      have hlt : i < bytes.data.toList.length := h
      rw [List.drop_eq_getElem_cons hlt]
      congr 1
      exact (getElem!_pos bytes.data i h).symm
    rw [ih, hdrop]
    simp
  | case2 i acc h =>
    have hle : bytes.data.toList.length ≤ i := Nat.le_of_not_lt h
    rw [List.drop_eq_nil_of_le hle, List.append_nil]

theorem encode_ofList (cs : List Char) :
    encode (String.ofList cs) = cs.flatMap String.utf8EncodeChar := by
  rw [encode, String.toUTF8_eq_toByteArray, ByteArray.toList, loop_eq]
  simp [List.utf8Encode]

theorem utf8ByteSize_eq (s : String) :
    s.utf8ByteSize = (s.toList.flatMap String.utf8EncodeChar).length := by
  simpa [List.utf8Encode] using (congrArg ByteArray.size (String.utf8Encode_toList (b := s))).symm

theorem length_le_utf8ByteSize (s : String) : s.toList.length ≤ s.utf8ByteSize := by
  have hsum := List.card_nsmul_le_sum (s.toList.map Char.utf8Size) 1
    (by simpa using fun c _ => c.utf8Size_pos)
  simpa [utf8ByteSize_eq, List.length_flatMap] using hsum

theorem utf8ByteSize_le (s : String) : s.utf8ByteSize ≤ 4 * s.toList.length := by
  have hsum := List.sum_le_card_nsmul (s.toList.map Char.utf8Size) 4
    (by simpa using fun c _ => c.utf8Size_le_four)
  simpa [utf8ByteSize_eq, List.length_flatMap, Nat.mul_comm] using hsum

theorem utf8EncodeChar_of_ascii {c : Char} (h : c.toNat < 0x80) :
    String.utf8EncodeChar c = [c.toNat.toUInt8] := by
  have hval : c.val.toNat ≤ 0x7F := Nat.le_of_lt_succ h
  rw [String.utf8EncodeChar, if_pos hval]
  rfl

theorem encode_of_ascii {cs : List Char} (h : ∀ c ∈ cs, c.toNat < 0x80) :
    encode (String.ofList cs) = cs.map fun c => c.toNat.toUInt8 := by
  rw [encode_ofList]
  induction cs with
  | nil => rfl
  | cons c cs ih =>
    obtain ⟨hc, hcs⟩ := List.forall_mem_cons.1 h
    rw [List.flatMap_cons, utf8EncodeChar_of_ascii hc, ih hcs]
    rfl

theorem decodeAux_of_ascii {cs : List Char} (h : ∀ c ∈ cs, c.toNat < 0x80) (lossy : Bool)
    (acc : List Char) :
    decodeAux lossy 0 acc (cs.map fun c => c.toNat.toUInt8) = some (acc.reverse ++ cs) := by
  induction cs generalizing acc with
  | nil => simp [decodeAux]
  | cons c cs ih =>
    obtain ⟨hc, hcs⟩ := List.forall_mem_cons.1 h
    have hbyte : c.toNat.toUInt8.toNat = c.toNat := by
      rw [Nat.toUInt8_eq, UInt8.toNat_ofNat']
      omega
    have hlow : c.toNat.toUInt8 < 0x80 := by
      rw [UInt8.lt_iff_toNat_lt, hbyte]
      exact hc
    have hfront : front c.toNat.toUInt8 (cs.map fun c => c.toNat.toUInt8) = .char c 1 := by
      unfold front
      rw [if_pos hlow, hbyte, Char.ofNat_toNat]
    rw [List.map_cons, decodeAux, hfront]
    simpa using ih hcs (c :: acc)

end Utf8

namespace Percent

theorem decode_of_notMem {bytes : List UInt8} (h : 0x25 ∉ bytes) : decode bytes = bytes := by
  fun_induction decode bytes with
  | case1 => rfl
  | case2 => rfl
  | case3 => rfl
  | case4 => simp at h
  | case5 => simp at h
  | case6 a b c rest _ ih => rw [ih fun hmem => h (List.mem_cons_of_mem a hmem)]

theorem decode?_decode_of_ascii {cs : List Char} (h : ∀ c ∈ cs, c.toNat < 0x80)
    (hpercent : '%' ∉ cs) :
    Utf8.decode? (decode (Utf8.encode (String.ofList cs))) = some (String.ofList cs) := by
  have hnot : (0x25 : UInt8) ∉ cs.map fun c => c.toNat.toUInt8 := by
    intro hmem
    obtain ⟨c, hc, hbyte⟩ := List.mem_map.1 hmem
    have hnumber : c.toNat = 0x25 := by
      have htoNat := congrArg UInt8.toNat hbyte
      rw [Nat.toUInt8_eq, UInt8.toNat_ofNat'] at htoNat
      have hlow := h c hc
      change c.toNat % 2 ^ 8 = 0x25 at htoNat
      omega
    have heq : c = '%' := Char.toNat_inj.1 hnumber
    exact hpercent (heq ▸ hc)
  rw [Utf8.encode_of_ascii h, decode_of_notMem hnot, Utf8.decode?, Utf8.decodeAux_of_ascii h]
  rfl

end Percent

end LiveLesson.Text
