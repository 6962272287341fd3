import LiveLesson.Proofs.Json.Bytes
import LiveLesson.Wire.Basic
import Mathlib.Data.List.Forall2

/-!
What a form takes for a value of its type, both ways in: as a value, and out of a text with anything
behind it that may follow a value. Every form takes what it writes.
-/

namespace LiveLesson.Wire

open Json Json.Reader

variable {α β : Type}

structure Takes (w : Wire α) (j : Json) (a : α) : Prop where
  decode : w.decode j = .ok a
  read : j.IsFinite → ∀ {rest}, Ends rest → w.read (bytes j ++ rest) = .ok (a, rest)

theorem Takes.parse {w : Wire α} {j : Json} {a : α} (h : w.Takes j a) (hfinite : j.IsFinite) :
    w.parse (Text.Utf8.encode j.text) = .ok a := by
  have hread := h.read hfinite ends_nil
  rw [List.append_nil, Json.bytes] at hread
  rw [Wire.parse]
  unfold readAll
  rw [hread]
  rfl

theorem takes_convert {w : Wire α} {j : Json} {a : α} (h : w.Takes j a)
    {make : α → Except String β} {b : β} (hmake : make a = .ok b) (view : β → α) :
    (w.convert make view).Takes j b := by
  constructor
  · simp only [convert, h.decode, bind, Except.bind, hmake]
    rfl
  · intro hfinite rest hrest
    refine (bind_of_ok (h.read hfinite hrest) _).trans ?_
    rw [hmake]
    rfl

theorem takes_rename {w : Wire α} {j : Json} {a : α} (h : w.Takes j a) (make : α → β)
    (view : β → α) : (w.rename make view).Takes j (make a) := by
  constructor
  · simp only [rename, h.decode]
    rfl
  · intro hfinite rest hrest
    exact bind_of_ok (h.read hfinite hrest) fun a => pure (make a)

theorem takes_integer {r : Text.Range} {n : Int} (hn : r.Contains n)
    (h64 : -2 ^ 63 ≤ n ∧ n < 2 ^ 64) (name : String) : (integer r name).Takes (.integer n) n := by
  have hrange : withinRange r name (.integer n) = .ok n := if_pos hn
  refine ⟨hrange, fun _ rest hrest => ?_⟩
  obtain ⟨b, tail, hbytes, hstarts, hnumber⟩ := number_toString h64 hrest
  rw [bytes_integer, hbytes, integer]
  dsimp only
  rw [List.cons_append, nextToken_bind _ (begins_of_startsNumber hstarts .null).noSpace]
  dsimp only
  rw [if_pos hstarts]
  refine (bind_of_ok hnumber _).trans ?_
  rw [Numeral.found, hrange]
  rfl

theorem takes_int64 {n : Int} (h : (Text.Range.signed 64).Contains n) :
    int64.Takes (.integer n) n := by
  have hbounds : -2 ^ 63 ≤ n ∧ n ≤ 2 ^ 63 - 1 := h
  exact takes_integer h (by omega) "i64"

theorem takes_natural {bits n : Nat} (hbits : bits ≤ 64) (h : n < 2 ^ bits) :
    (natural bits).Takes (.integer n) n := by
  have hwidth : 2 ^ bits ≤ 2 ^ 64 := Nat.pow_le_pow_right (by decide) hbits
  have hrange : (Text.Range.unsigned bits).Contains n := by
    refine ⟨Int.natCast_nonneg n, Int.le_sub_one_of_lt ?_⟩
    exact Int.ofNat_lt.2 h
  exact takes_rename (takes_integer hrange (by omega) _) Int.toNat Int.ofNat

theorem takes_stringAs (expected s : String) : (stringAs expected).Takes (.string s) s := by
  refine ⟨rfl, fun _ rest _ => ?_⟩
  rw [bytes_string, List.cons_append, stringAs]
  dsimp only
  rw [nextToken_bind _ (by decide)]
  dsimp only
  rw [if_pos rfl]
  exact (advance_bind _ _).trans (stringTail_eq s rest)

theorem takes_string (s : String) : string.Takes (.string s) s := takes_stringAs _ s

theorem takes_oneOf {names : List (String × α)} {s : String} {a : α} (h : names.lookup s = some a)
    (nameOf : α → String) : (oneOf names nameOf).Takes (.string s) a := by
  have hchosen : chosen names s = .ok a := by rw [chosen, h]
  refine ⟨hchosen, fun _ rest _ => ?_⟩
  have hread : readChosen names "variant identifier" (bytes (.string s) ++ rest) =
      .ok ((s, a), rest) := by
    refine (bind_of_ok ((takes_stringAs _ s).read trivial ‹_›) _).trans ?_
    rw [hchosen]
    rfl
  rw [bytes_string, List.cons_append] at hread ⊢
  rw [oneOf]
  dsimp only
  rw [nextToken_bind _ (by decide)]
  dsimp only
  rw [if_pos rfl]
  exact bind_of_ok hread fun p => pure p.2

theorem takes_none (w : Wire α) : (optional w).Takes .null none := by
  refine ⟨rfl, fun _ rest _ => ?_⟩
  rw [bytes_null]
  rfl

theorem takes_some {w : Wire α} {j : Json} {a : α} (h : w.Takes j a) (hnull : j ≠ .null) :
    (optional w).Takes j (some a) := by
  constructor
  · cases j with
    | null => exact absurd rfl hnull
    | _ => simp only [optional, h.decode]; rfl
  · intro hfinite rest hrest
    obtain ⟨b, tail, hbytes, hbegins⟩ := exists_bytes_cons hfinite
    have hn : b ≠ 0x6E := fun heq => hnull (hbegins.isNull heq)
    have hread : (some <$> w.read) (bytes j ++ rest) = .ok (some a, rest) :=
      bind_of_ok (h.read hfinite hrest) fun a => pure (some a)
    rw [hbytes, List.cons_append] at hread ⊢
    rw [optional]
    dsimp only
    rw [nextToken_bind _ hbegins.noSpace]
    refine Eq.trans (congrFun ?_ _) hread
    split
    · next heq => exact absurd (Option.some.inj heq) hn
    · rfl

theorem decodeAll_eq {w : Wire α} {js : List Json} {as : List α} (h : List.Forall₂ w.Takes js as) :
    decodeAll w.decode js = .ok as := by
  induction h with
  | nil => rfl
  | cons hitem _ ih =>
    simp only [decodeAll, hitem.decode, ih]
    rfl

theorem nextElement_close (first : Bool) (rest : List UInt8) :
    nextElement first (byte ']' :: rest) = .ok (.close, byte ']' :: rest) := rfl

theorem nextElement_another {j : Json} (h : j.IsFinite) (first : Bool) (rest : List UInt8) :
    nextElement first ((if first then [] else [byte ',']) ++ (bytes j ++ rest)) =
      .ok (.another, bytes j ++ rest) := by
  obtain ⟨b, tail, hbytes, hbegins⟩ := exists_bytes_cons h
  rw [hbytes, List.cons_append]
  cases first with
  | true =>
    rw [if_pos rfl, List.nil_append, nextElement, nextToken_bind _ hbegins.noSpace]
    dsimp only
    rw [if_neg hbegins.noClose, if_pos rfl]
    rfl
  | false =>
    rw [if_neg Bool.false_ne_true, List.singleton_append, nextElement, nextToken_bind _ (by decide)]
    refine (congrFun (if_neg (by decide)) _).trans
      ((congrFun (if_neg Bool.false_ne_true) _).trans ?_)
    refine (congrFun (if_pos rfl) _).trans ((advance_bind _ _).trans ?_)
    exact (nextToken_bind _ hbegins.noSpace _).trans (congrFun (if_neg hbegins.noClose) _)

theorem within_of_ok {r : Reader α} {rest more : List UInt8} {a : α} (h : r rest = .ok (a, more))
    (s : Step) : within s r rest = .ok (a, more) := by
  rw [within, h]
  rfl

theorem readElements_eq {w : Wire α} {js : List Json} {as : List α} (h : List.Forall₂ w.Takes js as)
    (hfinite : AllFinite js) {fuel : Nat} (hfuel : js.length ≤ fuel) (index : Nat) (acc : List α)
    (rest : List UInt8) :
    readElements w.read (fuel + 1) index acc (elementsFrom (index == 0) js ++ rest) =
      .ok (acc.reverse ++ as, rest) := by
  induction h generalizing fuel index acc with
  | nil =>
    refine (bind_of_ok (nextElement_close _ rest) _).trans ?_
    rw [List.append_nil]
    rfl
  | @cons j a js as hitem _ ih =>
    obtain ⟨fuel, rfl⟩ := Nat.exists_eq_add_of_le' (Nat.lt_of_lt_of_le (Nat.zero_lt_succ _) hfuel)
    rw [elementsFrom, List.append_assoc, List.append_assoc]
    refine (bind_of_ok (nextElement_another hfinite.1 _ _) _).trans ?_
    refine (bind_of_ok (within_of_ok (hitem.read hfinite.1 (ends_elementsFrom js rest)) _) _).trans
      ?_
    rw [List.append_cons, ← List.reverse_cons]
    exact ih hfinite.2 (Nat.le_of_succ_le_succ hfuel) (index + 1) (a :: acc)

theorem length_le_elementsFrom (js : List Json) : js.length ≤ (elementsFrom true js).length := by
  have hlater : ∀ js : List Json, js.length < (elementsFrom false js).length := by
    intro js
    induction js with
    | nil => exact Nat.zero_lt_one
    | cons j js ih =>
      simp only [elementsFrom, Bool.false_eq_true, if_false, List.length_append, List.length_cons,
        List.length_nil]
      omega
  cases js with
  | nil => exact Nat.zero_le _
  | cons j js =>
    have hjs := hlater js
    simp only [elementsFrom, List.length_append, List.length_cons]
    omega

theorem takes_list {w : Wire α} {js : List Json} {as : List α} (h : List.Forall₂ w.Takes js as) :
    (list w).Takes (.array js) as := by
  refine ⟨decodeAll_eq h, fun hfinite rest _ => ?_⟩
  have hlength := length_le_elementsFrom js
  have hfuel : js.length ≤ (elementsFrom true js ++ rest).length := by
    rw [List.length_append]
    omega
  rw [bytes_array]
  exact readElements_eq h hfinite hfuel 0 [] rest

end LiveLesson.Wire
