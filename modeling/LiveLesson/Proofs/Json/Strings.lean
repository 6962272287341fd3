import LiveLesson.Json.Skip
import LiveLesson.Proofs.Json.Text
import LiveLesson.Proofs.Text.Decoding
import Mathlib.Tactic.IntervalCases

/-!
Strings and names in the bytes of a text. What a string is written as is read as the string, and
passed over as a whole where the string is not wanted.
-/

namespace LiveLesson.Json

open Reader Text

def utf8 (cs : List Char) : List UInt8 := cs.flatMap String.utf8EncodeChar

@[simp] theorem utf8_nil : utf8 [] = [] := rfl

@[simp] theorem utf8_append (cs ds : List Char) : utf8 (cs ++ ds) = utf8 cs ++ utf8 ds :=
  List.flatMap_append

theorem utf8_cons (c : Char) (cs : List Char) :
    utf8 (c :: cs) = String.utf8EncodeChar c ++ utf8 cs := List.flatMap_cons

theorem utf8_cons_ascii {c : Char} (h : c.toNat < 0x80) (cs : List Char) :
    utf8 (c :: cs) = byte c :: utf8 cs := by
  rw [utf8_cons, Utf8.utf8EncodeChar_of_ascii h]
  rfl

theorem decode?_utf8 (s : String) : Utf8.decode? (utf8 s.toList) = some s := by
  rw [Utf8.decode?, utf8, Utf8.decodeAux_flatMap]
  simp

def IsOrdinary (b : UInt8) : Prop := b ≠ byte '"' ∧ b ≠ byte '\\' ∧ ¬ b < 0x20

instance (b : UInt8) : Decidable (IsOrdinary b) :=
  inferInstanceAs (Decidable (b ≠ byte '"' ∧ b ≠ byte '\\' ∧ ¬ b < 0x20))

/-- The escape of a character behind its backslash, as it is read and as it is passed over. -/
structure Escapes (c : Char) (tail : List UInt8) : Prop where
  bytes : utf8 (escapeChar c) = byte '\\' :: tail
  read : ∀ more, escape (tail ++ more) = .ok (String.utf8EncodeChar c, more)
  skip : ∀ fuel more, skipStringTail (fuel + 1) (byte '\\' :: tail ++ more) =
    skipStringTail fuel more

theorem escapes_control : ∀ n < 0x20, ∃ tail, Escapes (Char.ofNat n) tail := by
  intro n hn
  interval_cases n <;> exact ⟨_, ⟨rfl, fun _ => rfl, fun _ _ => rfl⟩⟩

theorem escapes_quote : Escapes '"' [byte '"'] := ⟨rfl, fun _ => rfl, fun _ _ => rfl⟩

theorem escapes_backslash : Escapes '\\' [byte '\\'] := ⟨rfl, fun _ => rfl, fun _ _ => rfl⟩

theorem isOrdinary_of_le {n : Nat} (h : 0x80 ≤ n ∧ n < 0x100) : IsOrdinary n.toUInt8 := by
  have hall : ∀ n < 0x100, 0x80 ≤ n → IsOrdinary n.toUInt8 := by decide +kernel
  exact hall n h.2 h.1

theorem isOrdinary_of_large {c : Char} (h : 0x80 ≤ c.toNat) :
    ∀ b ∈ String.utf8EncodeChar c, IsOrdinary b := by
  have hvalid : c.toNat < 0xD800 ∨ 0xDFFF < c.toNat ∧ c.toNat < 0x110000 := c.valid
  rw [← Utf8.encodeChar_eq, Utf8.encodeChar, if_neg (Nat.not_lt.2 h)]
  split
  · simp only [List.forall_mem_cons]
    exact ⟨isOrdinary_of_le (by omega), isOrdinary_of_le (by omega), List.forall_mem_nil _⟩
  · split
    · simp only [List.forall_mem_cons]
      exact ⟨isOrdinary_of_le (by omega), isOrdinary_of_le (by omega), isOrdinary_of_le (by omega),
        List.forall_mem_nil _⟩
    · simp only [List.forall_mem_cons]
      exact ⟨isOrdinary_of_le (by omega), isOrdinary_of_le (by omega), isOrdinary_of_le (by omega),
        isOrdinary_of_le (by omega), List.forall_mem_nil _⟩

theorem escapes_or_ordinary (c : Char) : (∃ tail, Escapes c tail) ∨
    escapeChar c = [c] ∧ ∀ b ∈ String.utf8EncodeChar c, IsOrdinary b := by
  by_cases hquote : c = '"'
  · exact .inl ⟨_, hquote ▸ escapes_quote⟩
  by_cases hbackslash : c = '\\'
  · exact .inl ⟨_, hbackslash ▸ escapes_backslash⟩
  by_cases hcontrol : c.toNat < 0x20
  · have hescapes := escapes_control c.toNat hcontrol
    rw [Char.ofNat_toNat] at hescapes
    exact .inl hescapes
  refine .inr
    ⟨by rw [escapeChar, if_neg hquote, if_neg hbackslash, if_pos (Nat.le_of_not_lt hcontrol)], ?_⟩
  by_cases hascii : c.toNat < 0x80
  · have hall : c ≠ '"' → c ≠ '\\' → ¬ c.toNat < 0x20 → IsOrdinary c.toNat.toUInt8 :=
      forall_ascii c hascii (by decide +kernel)
    rw [Utf8.utf8EncodeChar_of_ascii hascii]
    simpa using hall hquote hbackslash hcontrol
  · exact isOrdinary_of_large (Nat.le_of_not_lt hascii)

theorem stringBytes_cons {b : UInt8} (h : IsOrdinary b) (fuel : Nat) (acc more : List UInt8) :
    stringBytes (fuel + 1) acc (b :: more) = stringBytes fuel (b :: acc) more :=
  (if_neg h.1).trans ((if_neg h.2.1).trans (if_neg h.2.2))

theorem skipStringTail_cons {b : UInt8} (h : IsOrdinary b) (fuel : Nat) (more : List UInt8) :
    skipStringTail (fuel + 1) (b :: more) = skipStringTail fuel more :=
  (if_neg h.1).trans ((if_neg h.2.1).trans (if_neg h.2.2))

theorem stringBytes_ordinary {bs : List UInt8} (h : ∀ b ∈ bs, IsOrdinary b) (fuel : Nat)
    (acc more : List UInt8) :
    stringBytes (fuel + bs.length) acc (bs ++ more) =
      stringBytes fuel (bs.reverse ++ acc) more := by
  induction bs generalizing acc with
  | nil => rfl
  | cons b bs ih =>
    obtain ⟨hb, hbs⟩ := List.forall_mem_cons.1 h
    rw [List.length_cons, ← Nat.add_assoc, List.cons_append, stringBytes_cons hb, ih hbs,
      List.reverse_cons, List.append_assoc, List.singleton_append]

theorem skipStringTail_ordinary {bs : List UInt8} (h : ∀ b ∈ bs, IsOrdinary b) (fuel : Nat)
    (more : List UInt8) :
    skipStringTail (fuel + bs.length) (bs ++ more) = skipStringTail fuel more := by
  induction bs with
  | nil => rfl
  | cons b bs ih =>
    obtain ⟨hb, hbs⟩ := List.forall_mem_cons.1 h
    rw [List.length_cons, ← Nat.add_assoc, List.cons_append, skipStringTail_cons hb, ih hbs]

theorem Escapes.stringBytes_eq {c : Char} {tail : List UInt8} (h : Escapes c tail) (fuel : Nat)
    (acc more : List UInt8) :
    stringBytes (fuel + 1) acc (byte '\\' :: tail ++ more) =
      stringBytes fuel ((String.utf8EncodeChar c).reverse ++ acc) more := by
  rw [List.cons_append, stringBytes]
  dsimp only
  rw [if_neg (by decide), if_pos rfl, h.read]

/-- The characters of a string are read one after the other, up to the closing quote. -/
theorem stringBytes_escaped (cs : List Char) {fuel : Nat}
    (hfuel : (utf8 (cs.flatMap escapeChar)).length < fuel) (acc more : List UInt8) :
    stringBytes fuel acc (utf8 (cs.flatMap escapeChar) ++ byte '"' :: more) =
      .ok ((utf8 cs).reverse ++ acc, byte '"' :: more) := by
  induction cs generalizing fuel acc with
  | nil =>
    cases fuel with
    | zero => cases hfuel
    | succ fuel => rfl
  | cons c cs ih =>
    rw [List.flatMap_cons, utf8_append, List.length_append] at hfuel
    rw [List.flatMap_cons, utf8_append, List.append_assoc, utf8_cons, List.reverse_append,
      List.append_assoc]
    rcases escapes_or_ordinary c with ⟨tail, hescapes⟩ | ⟨hsame, hordinary⟩
    · rw [hescapes.bytes, List.length_cons] at hfuel
      obtain ⟨fuel, rfl⟩ := Nat.exists_eq_add_of_le' (by omega : 1 ≤ fuel)
      rw [hescapes.bytes, hescapes.stringBytes_eq, ih (by omega)]
    · rw [hsame, utf8_cons, utf8_nil, List.append_nil] at hfuel ⊢
      obtain ⟨fuel, rfl⟩ :=
        Nat.exists_eq_add_of_le' (by omega : (String.utf8EncodeChar c).length ≤ fuel)
      rw [stringBytes_ordinary hordinary, ih (by omega)]

theorem skipStringTail_escaped (cs : List Char) {fuel : Nat}
    (hfuel : (utf8 (cs.flatMap escapeChar)).length < fuel) (more : List UInt8) :
    skipStringTail fuel (utf8 (cs.flatMap escapeChar) ++ byte '"' :: more) = .ok ((), more) := by
  induction cs generalizing fuel with
  | nil =>
    cases fuel with
    | zero => cases hfuel
    | succ fuel => rfl
  | cons c cs ih =>
    rw [List.flatMap_cons, utf8_append, List.length_append] at hfuel
    rw [List.flatMap_cons, utf8_append, List.append_assoc]
    rcases escapes_or_ordinary c with ⟨tail, hescapes⟩ | ⟨hsame, hordinary⟩
    · rw [hescapes.bytes, List.length_cons] at hfuel
      obtain ⟨fuel, rfl⟩ := Nat.exists_eq_add_of_le' (by omega : 1 ≤ fuel)
      rw [hescapes.bytes, hescapes.skip, ih (by omega)]
    · rw [hsame, utf8_cons, utf8_nil, List.append_nil] at hfuel ⊢
      obtain ⟨fuel, rfl⟩ :=
        Nat.exists_eq_add_of_le' (by omega : (String.utf8EncodeChar c).length ≤ fuel)
      rw [skipStringTail_ordinary hordinary, ih (by omega)]

def stringRest (s : String) : List UInt8 := utf8 (s.toList.flatMap escapeChar) ++ [byte '"']

theorem utf8_quoted (s : String) : utf8 (quoted s) = byte '"' :: stringRest s := by
  rw [quoted, utf8_append, utf8_cons_ascii (by decide), utf8_cons_ascii (by decide),
    utf8_nil, stringRest]
  rfl

theorem stringTail_eq (s : String) (more : List UInt8) :
    stringTail (stringRest s ++ more) = .ok (s, more) := by
  have hfuel : (utf8 (s.toList.flatMap escapeChar)).length < (stringRest s ++ more).length + 1 := by
    simp only [stringRest, List.length_append]
    omega
  have hbytes := stringBytes_escaped s.toList hfuel [] more
  have hread : stringBytes ((stringRest s ++ more).length + 1) [] (stringRest s ++ more) =
      .ok ((utf8 s.toList).reverse, byte '"' :: more) := by
    rw [stringRest, List.append_assoc, List.append_nil] at *
    exact hbytes
  simp only [stringTail, bind, StateT.bind, Except.bind, hread, List.reverse_reverse, decode?_utf8]
  rfl

theorem skipString_eq (s : String) (more : List UInt8) :
    skipString (stringRest s ++ more) = .ok ((), more) := by
  have hfuel : (utf8 (s.toList.flatMap escapeChar)).length < (stringRest s ++ more).length + 1 := by
    simp only [stringRest, List.length_append]
    omega
  have hskip := skipStringTail_escaped s.toList hfuel more
  rw [skipString]
  rw [stringRest, List.append_assoc] at *
  exact hskip

end LiveLesson.Json
