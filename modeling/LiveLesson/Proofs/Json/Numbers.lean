import LiveLesson.Proofs.Json.Strings
import LiveLesson.Proofs.Text.Integer

/-!
Numbers in the bytes of a text. What an integer of 64 bits is written as is read as that integer,
and every number is passed over as a whole where it is not wanted.
-/

namespace LiveLesson.Json

open Reader Text

section Readers

variable {α β : Type}

theorem Reader.bind_of_ok {r : Reader α} {rest more : List UInt8} {a : α}
    (h : r rest = .ok (a, more)) (f : α → Reader β) : (r >>= f) rest = f a more := by
  simp only [bind, StateT.bind, Except.bind, h]

theorem Reader.peek_bind (f : Option UInt8 → Reader α) (rest : List UInt8) :
    (peek >>= f) rest = f rest.head? rest := rfl

theorem Reader.advance_bind (f : Unit → Reader α) (rest : List UInt8) :
    (advance >>= f) rest = f () (rest.drop 1) := rfl

end Readers

/-- What may stand behind a value: a separator, the end of a list or an object, or nothing. -/
def Ends (rest : List UInt8) : Prop :=
  ∀ b ∈ rest.head?, b = byte ',' ∨ b = byte ']' ∨ b = byte '\x7d'

theorem ends_nil : Ends [] := nofun

theorem ends_cons {b : UInt8} (h : b = byte ',' ∨ b = byte ']' ∨ b = byte '\x7d')
    (rest : List UInt8) : Ends (b :: rest) := by
  rintro c ⟨⟩
  exact h

theorem Ends.notNumeral {rest : List UInt8} (h : Ends rest) : ∀ b ∈ rest.head?,
    isDigit b = false ∧ b ≠ 0x2E ∧ b ≠ 0x65 ∧ b ≠ 0x45 := by
  intro b hb
  rcases h b hb with rfl | rfl | rfl <;> decide

theorem isDigit_byte {c : Char} (h : c.isDigit = true) :
    c.toNat < 0x80 ∧ isDigit (byte c) = true ∧ (byte c).toNat - 0x30 = c.toNat - '0'.toNat := by
  have hbounds : 48 ≤ c.toNat ∧ c.toNat ≤ 57 := by
    simpa [Char.isDigit, UInt32.le_iff_toNat_le] using h
  have hall : c.isDigit = true → isDigit (byte c) = true ∧
      (byte c).toNat - 0x30 = c.toNat - '0'.toNat :=
    forall_ascii c (by omega) (by decide +kernel)
  exact ⟨by omega, hall h⟩

theorem byte_ne_zero {c : Char} (h : c.isDigit = true) (hc : c ≠ '0') : byte c ≠ 0x30 := by
  have hall : c.isDigit = true → c ≠ '0' → byte c ≠ 0x30 :=
    forall_ascii c (isDigit_byte h).1 (by decide +kernel)
  exact hall h hc

theorem utf8_of_ascii {cs : List Char} (h : ∀ c ∈ cs, c.toNat < 0x80) : utf8 cs = cs.map byte := by
  rw [utf8, ← Utf8.encode_ofList, Utf8.encode_of_ascii h]
  rfl

theorem utf8_digits_cons {c : Char} (h : c.isDigit = true) (cs : List Char) :
    utf8 (c :: cs) = byte c :: utf8 cs :=
  utf8_cons_ascii (isDigit_byte h).1 cs

theorem collect_digits {ds : List Char} (hds : ∀ c ∈ ds, c.isDigit = true) {s : Nat}
    (hlimit : Nat.ofDigitChars 10 ds s < significandLimit) {rest : List UInt8}
    (hrest : ∀ b ∈ rest.head?, isDigit b = false) (count : Nat) :
    collect s count (utf8 ds ++ rest) =
      (Nat.ofDigitChars 10 ds s, count + ds.length, false, rest) := by
  induction ds generalizing s count with
  | nil =>
    cases rest with
    | nil => rfl
    | cons b rest =>
      rw [utf8_nil, List.nil_append, collect, hrest b rfl, if_neg Bool.false_ne_true]
      rfl
  | cons c ds ih =>
    obtain ⟨hc, hds⟩ := List.forall_mem_cons.1 hds
    obtain ⟨-, hdigit, hvalue⟩ := isDigit_byte hc
    rw [Nat.ofDigitChars_cons] at hlimit ⊢
    have hstep := Nat.lt_of_le_of_lt (le_ofDigitChars ds _) hlimit
    have hcount : count + 1 + ds.length = count + (c :: ds).length := by
      rw [List.length_cons]
      omega
    rw [utf8_digits_cons hc, List.cons_append, collect, if_pos hdigit, hvalue, Nat.mul_comm s]
    dsimp only
    rw [if_neg (Nat.not_le.2 hstep), ih hds hlimit, hcount]

theorem dropWhile_digits {ds : List Char} (hds : ∀ c ∈ ds, c.isDigit = true) {rest : List UInt8}
    (hrest : ∀ b ∈ rest.head?, isDigit b = false) : (utf8 ds ++ rest).dropWhile isDigit = rest := by
  have hbytes : ∀ b ∈ utf8 ds, isDigit b = true := by
    rw [utf8_of_ascii fun c hc => (isDigit_byte (hds c hc)).1]
    exact List.forall_mem_map.2 fun c hc => (isDigit_byte (hds c hc)).2.1
  rw [List.dropWhile_append_of_pos hbytes]
  cases rest with
  | nil => rfl
  | cons b rest => rw [List.dropWhile_cons, hrest b rfl, if_neg Bool.false_ne_true]

theorem exists_toDigits_eq_cons {n : Nat} (h : 0 < n) :
    ∃ d ds, Nat.toDigits 10 n = d :: ds ∧ d ≠ '0' := by
  induction n using Nat.strongRecOn with
  | ind n ih =>
    rw [Nat.toDigits_eq_if (by decide)]
    split
    · next hsmall =>
      have hall : ∀ n < 10, 0 < n → n.digitChar ≠ '0' := by decide
      exact ⟨_, [], rfl, hall n hsmall h⟩
    · next hlarge =>
      obtain ⟨d, ds, hdigits, hd⟩ := ih (n / 10) (by omega) (by omega)
      exact ⟨d, ds ++ [(n % 10).digitChar], by rw [hdigits, List.cons_append], hd⟩

theorem isDigit_of_mem_toDigits {n : Nat} : ∀ c ∈ Nat.toDigits 10 n, c.isDigit = true :=
  fun _ hc => Nat.isDigit_of_mem_toDigits (by decide) (by decide) hc

/-- The number of a sign and digits; one with a minus sign stays an integer if it fits. -/
def Numeral.ofSize (positive : Bool) (n : Nat) : Numeral :=
  if positive then .integer n
  else if n = 0 || Nat.pow 2 63 < n then .float (Binary64.ofNat n).negate
  else .integer (-(n : Int))

theorem numberTail_of_ends {rest : List UInt8} (hrest : Ends rest) (positive : Bool) (n : Nat) :
    numberTail positive n rest = .ok (.ofSize positive n, rest) := by
  cases rest with
  | nil => rfl
  | cons b rest =>
    obtain ⟨-, hpoint, hsmall, hlarge⟩ := hrest.notNumeral b rfl
    rw [numberTail, peek_bind, ← Numeral.ofSize]
    refine (congrFun (?_ : _ = (pure (Numeral.ofSize positive n) : Reader Numeral))
      (b :: rest)).trans rfl
    dsimp only [List.head?_cons]
    split
    · next heq => exact absurd (Option.some.inj heq) hpoint
    · next heq => exact absurd (Option.some.inj heq) hsmall
    · next heq => exact absurd (Option.some.inj heq) hlarge
    · rfl

theorem unsignedNumber_toDigits {n : Nat} (hn : n < significandLimit) {rest : List UInt8}
    (hrest : Ends rest) (positive : Bool) :
    unsignedNumber positive (utf8 (Nat.toDigits 10 n) ++ rest) =
      .ok (.ofSize positive n, rest) := by
  have hend : ∀ b ∈ rest.head?, isDigit b = false := fun b hb => (hrest.notNumeral b hb).1
  rw [← numberTail_of_ends hrest]
  by_cases hzero : n = 0
  · subst hzero
    cases rest with
    | nil => rfl
    | cons b rest =>
      have hb : ¬ isDigit b = true := by simp [hend b rfl]
      exact congrFun (if_neg hb) (b :: rest)
  · obtain ⟨d, ds, hdigits, hd⟩ := exists_toDigits_eq_cons (Nat.pos_of_ne_zero hzero)
    obtain ⟨hdigit, hds⟩ := List.forall_mem_cons.1 (hdigits ▸ isDigit_of_mem_toDigits (n := n))
    obtain ⟨hascii, hbyte, hvalue⟩ := isDigit_byte hdigit
    have hfirst : byte d ≠ 0x30 := byte_ne_zero hdigit hd
    have htotal : Nat.ofDigitChars 10 ds (d.toNat - '0'.toNat) = n := by
      have hwhole := Nat.ofDigitChars_ten_toDigits (n := n)
      rwa [hdigits, Nat.ofDigitChars_cons, Nat.mul_zero, Nat.zero_add] at hwhole
    have hcollect := collect_digits hds (htotal ▸ hn) hend 0
    rw [htotal, ← hvalue] at hcollect
    rw [hdigits, utf8_digits_cons hdigit, List.cons_append]
    refine (congrFun (if_neg hfirst) _).trans ((congrFun (if_pos hbyte) _).trans ?_)
    simp only [bind, StateT.bind, Except.bind, get, getThe, MonadStateOf.get, StateT.get, pure,
      Except.pure, List.drop_succ_cons, List.drop_zero, hcollect]
    rfl

theorem number_toString {n : Int} (hn : -2 ^ 63 ≤ n ∧ n < 2 ^ 64) {rest : List UInt8}
    (hrest : Ends rest) : ∃ b tail, utf8 (toString n).toList = b :: tail ∧ startsNumber b = true ∧
      number b (b :: tail ++ rest) = .ok (.integer n, rest) := by
  cases n with
  | ofNat k =>
    have htext : (toString (Int.ofNat k)).toList = Nat.toDigits 10 k := Nat.toList_repr
    obtain ⟨d, ds, hdigits⟩ := List.exists_cons_of_ne_nil (Nat.toDigits_ne_nil (n := k) (b := 10))
    have hdigit : d.isDigit = true := isDigit_of_mem_toDigits d (hdigits ▸ List.mem_cons_self)
    obtain ⟨-, hbyte, -⟩ := isDigit_byte hdigit
    have hk : k < significandLimit := Int.ofNat_lt.1 hn.2
    have hread := unsignedNumber_toDigits hk hrest true
    have hminus : byte d ≠ 0x2D := by
      rintro heq
      rw [heq] at hbyte
      exact absurd hbyte (by decide)
    rw [hdigits, utf8_digits_cons hdigit] at hread
    refine ⟨byte d, utf8 ds, by rw [htext, hdigits, utf8_digits_cons hdigit], ?_, ?_⟩
    · rw [startsNumber, hbyte, Bool.or_true]
    · rw [number, if_neg hminus]
      exact hread
  | negSucc k =>
    have hk : k + 1 ≤ 2 ^ 63 := by omega
    have hread := unsignedNumber_toDigits (Nat.lt_of_le_of_lt hk (by decide)) hrest false
    refine ⟨byte '-', utf8 (Nat.toDigits 10 (k + 1)), ?_, by decide, ?_⟩
    · rw [toList_toString_negSucc, utf8_cons_ascii (by decide), Nat.toList_repr]
    · refine hread.trans ?_
      have hsmall : ¬ (k + 1 = 0 || Nat.pow 2 63 < k + 1) = true := by
        simpa using hk
      rw [Numeral.ofSize, if_neg Bool.false_ne_true, if_neg hsmall]
      rfl

def AreDigits (ds : List Char) : Prop := ds ≠ [] ∧ ∀ c ∈ ds, c.isDigit = true

def IsWhole (cs : List Char) : Prop := AreDigits cs ∧ (cs.head? = some '0' → cs = ['0'])

def IsFraction (cs : List Char) : Prop := cs = [] ∨ ∃ ds, AreDigits ds ∧ cs = '.' :: ds

def IsExponent (cs : List Char) : Prop := cs = [] ∨
  ∃ letter sign ds, (letter = 'e' ∨ letter = 'E') ∧ (sign = [] ∨ sign = ['+'] ∨ sign = ['-']) ∧
  AreDigits ds ∧
    cs = letter :: (sign ++ ds)

def IsNumber (cs : List Char) : Prop :=
  ∃ sign whole fraction exponent, (sign = [] ∨ sign = ['-']) ∧ IsWhole whole ∧
  IsFraction fraction ∧ IsExponent exponent ∧ cs = sign ++ (whole ++ (fraction ++ exponent))

theorem AreDigits.exists_cons {ds : List Char} (h : AreDigits ds) :
    ∃ d more, ds = d :: more ∧ d.isDigit = true ∧
    utf8 ds = byte d :: utf8 more ∧ isDigit (byte d) = true ∧ ∀ c ∈ more, c.isDigit = true := by
  obtain ⟨d, more, rfl⟩ := List.exists_cons_of_ne_nil h.1
  obtain ⟨hd, hmore⟩ := List.forall_mem_cons.1 h.2
  exact ⟨d, more, rfl, hd, utf8_digits_cons hd more, (isDigit_byte hd).2.1, hmore⟩

theorem skipExponentIfAny_of_ends {rest : List UInt8} (hrest : Ends rest) :
    skipExponentIfAny rest = .ok ((), rest) := by
  cases rest with
  | nil => rfl
  | cons b rest =>
    obtain ⟨-, -, hsmall, hlarge⟩ := hrest.notNumeral b rfl
    rw [skipExponentIfAny, peek_bind]
    refine (congrFun (?_ : _ = (pure () : Reader Unit)) (b :: rest)).trans rfl
    dsimp only [List.head?_cons]
    split
    · next heq => exact absurd (Option.some.inj heq) hsmall
    · next heq => exact absurd (Option.some.inj heq) hlarge
    · rfl

theorem skipExponent_digit {b : UInt8} (hdigit : isDigit b = true) (letter : UInt8)
    (more : List UInt8) : skipExponent (letter :: b :: more) = skipDigits more := by
  rw [skipExponent, advance_bind, List.drop_succ_cons, List.drop_zero, peek_bind, List.head?_cons]
  generalize ho : some b = o
  have hplus : o ≠ some 0x2B := by
    rintro rfl
    exact absurd (Option.some.inj ho ▸ hdigit) (by decide)
  have hminus : o ≠ some 0x2D := by
    rintro rfl
    exact absurd (Option.some.inj ho ▸ hdigit) (by decide)
  split
  · exact absurd rfl hplus
  · exact absurd rfl hminus
  · exact congrFun (if_pos hdigit) more

theorem skipExponent_digits {ds : List Char} (hds : AreDigits ds) {sign : List Char}
    (hsign : sign = [] ∨ sign = ['+'] ∨ sign = ['-']) {rest : List UInt8} (hrest : Ends rest)
    (letter : UInt8) :
    skipExponent (letter :: (utf8 sign ++ (utf8 ds ++ rest))) = .ok ((), rest) := by
  have hend : ∀ b ∈ rest.head?, isDigit b = false := fun b hb => (hrest.notNumeral b hb).1
  obtain ⟨d, more, rfl, hd, hutf8, hdigit, hmore⟩ := hds.exists_cons
  have hdigits : skipDigits (utf8 more ++ rest) = .ok ((), rest) := by
    rw [skipDigits, dropWhile_digits hmore hend]
  rw [hutf8]
  rcases hsign with rfl | rfl | rfl
  · exact (skipExponent_digit hdigit letter _).trans hdigits
  · exact (congrFun (if_pos hdigit) _).trans hdigits
  · exact (congrFun (if_pos hdigit) _).trans hdigits

theorem skipExponentIfAny_eq {cs : List Char} (hcs : IsExponent cs) {rest : List UInt8}
    (hrest : Ends rest) : skipExponentIfAny (utf8 cs ++ rest) = .ok ((), rest) := by
  obtain rfl | ⟨letter, sign, ds, hletter, hsign, hds, rfl⟩ := hcs
  · exact skipExponentIfAny_of_ends hrest
  · have hskip := skipExponent_digits hds hsign hrest
    rcases hletter with rfl | rfl <;>
    · rw [utf8_cons_ascii (by decide), utf8_append, List.cons_append, List.append_assoc]
      exact hskip _

theorem IsExponent.noDigit {cs : List Char} (hcs : IsExponent cs) {rest : List UInt8}
    (hrest : Ends rest) : ∀ b ∈ (utf8 cs ++ rest).head?, isDigit b = false := by
  obtain rfl | ⟨letter, sign, ds, hletter, -, -, rfl⟩ := hcs
  · exact fun b hb => (hrest.notNumeral b hb).1
  · rcases hletter with rfl | rfl <;>
    · rw [utf8_cons_ascii (by decide), List.cons_append]
      rintro b ⟨⟩
      decide

theorem IsFraction.noDigit {fraction exponent : List Char} (hfraction : IsFraction fraction)
    (hexponent : IsExponent exponent) {rest : List UInt8} (hrest : Ends rest) :
    ∀ b ∈ (utf8 fraction ++ (utf8 exponent ++ rest)).head?, isDigit b = false := by
  obtain rfl | ⟨ds, -, rfl⟩ := hfraction
  · exact hexponent.noDigit hrest
  · rw [utf8_cons_ascii (by decide), List.cons_append]
    rintro b ⟨⟩
    decide

theorem skipNumberTail_eq {fraction exponent : List Char} (hfraction : IsFraction fraction)
    (hexponent : IsExponent exponent) {rest : List UInt8} (hrest : Ends rest) :
    skipNumberTail (utf8 fraction ++ (utf8 exponent ++ rest)) = .ok ((), rest) := by
  have hskip := skipExponentIfAny_eq hexponent hrest
  obtain rfl | ⟨ds, hds, rfl⟩ := hfraction
  · refine Eq.trans ?_ hskip
    have hpoint : (utf8 exponent ++ rest).head? ≠ some 0x2E := by
      obtain rfl | ⟨letter, sign, ds, hletter, -, -, rfl⟩ := hexponent
      · exact fun hhead => (hrest.notNumeral _ hhead).2.1 rfl
      · rcases hletter with rfl | rfl <;>
        · rw [utf8_cons_ascii (by decide), List.cons_append]
          exact fun hhead => absurd (Option.some.inj hhead) (by decide)
    rw [utf8_nil, List.nil_append, skipNumberTail, peek_bind]
    refine congrFun (?_ : _ = skipExponentIfAny) _
    split
    · next heq => exact absurd heq hpoint
    · rfl
  · obtain ⟨d, more, rfl, hd, hutf8, hdigit, hmore⟩ := hds.exists_cons
    have hdrop := dropWhile_digits hds.2 (hexponent.noDigit hrest)
    rw [utf8_cons_ascii (by decide)]
    refine Eq.trans ?_ hskip
    have hdigits : (if isDigit (byte d) then (do skipDigits; skipExponentIfAny)
        else failNext .invalidNumber : Reader Unit)
        (utf8 (d :: more) ++ (utf8 exponent ++ rest)) =
          skipExponentIfAny (utf8 exponent ++ rest) := by
      rw [if_pos hdigit]
      exact congrArg skipExponentIfAny hdrop
    rw [hutf8] at hdigits ⊢
    exact hdigits

theorem skipNumber_eq {whole fraction exponent : List Char} (hwhole : IsWhole whole)
    (hfraction : IsFraction fraction) (hexponent : IsExponent exponent) {rest : List UInt8}
    (hrest : Ends rest) :
    skipNumber (utf8 whole ++ (utf8 fraction ++ (utf8 exponent ++ rest))) = .ok ((), rest) := by
  have hskip := skipNumberTail_eq hfraction hexponent hrest
  have hend := hfraction.noDigit hexponent hrest
  generalize utf8 fraction ++ (utf8 exponent ++ rest) = tail at hskip hend ⊢
  obtain ⟨d, more, rfl, hd, hutf8, hdigit, hmore⟩ := hwhole.1.exists_cons
  refine Eq.trans ?_ hskip
  by_cases hzero : d = '0'
  · subst hzero
    obtain rfl : more = [] := (List.cons.inj (hwhole.2 rfl)).2
    cases tail with
    | nil => rfl
    | cons b tail =>
      have hb : ¬ isDigit b = true := by simp [hend b rfl]
      exact congrFun (if_neg hb) (b :: tail)
  · have hfirst : byte d ≠ 0x30 := byte_ne_zero hd hzero
    rw [hutf8, List.cons_append]
    refine (congrFun (if_neg hfirst) _).trans ((congrFun (if_pos hdigit) _).trans ?_)
    exact congrArg skipNumberTail (dropWhile_digits hmore hend)

theorem areDigits_toDigits (n : Nat) : AreDigits (Nat.toDigits 10 n) :=
  ⟨Nat.toDigits_ne_nil, isDigit_of_mem_toDigits⟩

theorem isWhole_toDigits (n : Nat) : IsWhole (Nat.toDigits 10 n) := by
  refine ⟨areDigits_toDigits n, fun hhead => ?_⟩
  by_cases hzero : n = 0
  · rw [hzero]
    rfl
  · obtain ⟨d, ds, hdigits, hd⟩ := exists_toDigits_eq_cons (Nat.pos_of_ne_zero hzero)
    rw [hdigits] at hhead
    exact absurd (Option.some.inj hhead) hd

theorem isNumber_toString (n : Int) : IsNumber (toString n).toList := by
  cases n with
  | ofNat k =>
    exact ⟨[], _, [], [], .inl rfl, isWhole_toDigits k, .inl rfl, .inl rfl, by
      rw [List.nil_append, List.append_nil, List.append_nil]
      exact Nat.toList_repr⟩
  | negSucc k =>
    exact ⟨['-'], _, [], [], .inr rfl, isWhole_toDigits (k + 1), .inl rfl, .inl rfl, by
      rw [toList_toString_negSucc, Nat.toList_repr, List.append_nil, List.append_nil,
        List.singleton_append]⟩

end LiveLesson.Json
