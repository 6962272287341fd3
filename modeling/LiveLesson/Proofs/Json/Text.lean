import LiveLesson.Json.Value
import Mathlib.Algebra.Order.BigOperators.Group.List
import Mathlib.Algebra.Order.Group.Nat

/-!
The text of JSON values, character by character. A value's text does not depend on what stands
before it, so the text of an object is that of its members one after the other, and an integer that
stands first can be read off it. A list of short strings has a short text.
-/

namespace LiveLesson.Json

def quoted (s : String) : List Char := '"' :: s.toList.flatMap escapeChar ++ ['"']

theorem toList_foldl_push (cs : List Char) (acc : String) :
    (cs.foldl String.push acc).toList = acc.toList ++ cs := by
  induction cs generalizing acc with
  | nil => simp
  | cons c cs ih => simp [ih]

theorem toList_quoteOnto (acc s : String) : (quoteOnto acc s).toList = acc.toList ++ quoted s := by
  have hfold : ∀ (cs : List Char) (out : String),
      (cs.foldl (fun out c => (escapeChar c).foldl String.push out) out).toList =
        out.toList ++ cs.flatMap escapeChar := by
    intro cs
    induction cs with
    | nil => simp
    | cons c cs ih => simp [ih, toList_foldl_push]
  rw [quoteOnto, String.foldl_eq_foldl_toList, String.toList_push, hfold]
  simp [quoted]

mutual

theorem toList_textOnto (acc : String) : ∀ j :
    Json, (textOnto acc j).toList = acc.toList ++ (text j).toList
  | .null => by simp [text, textOnto]
  | .bool b => by simp [text, textOnto]
  | .integer n => by simp [text, textOnto]
  | .float x => by simp [text, textOnto]
  | .string s => by simp [text, textOnto, toList_quoteOnto]
  | .array items => by
    simp only [text, textOnto, String.toList_push]
    rw [toList_itemsOnto (acc.push '['), toList_itemsOnto ("".push '[')]
    simp
  | .object members => by
    simp only [text, textOnto, String.toList_push]
    rw [toList_membersOnto (acc.push '\x7b'), toList_membersOnto ("".push '\x7b')]
    simp

theorem toList_itemsOnto (acc : String) (first : Bool) : ∀ items : List Json,
    (itemsOnto acc first items).toList = acc.toList ++ (itemsOnto "" first items).toList
  | [] => by simp [itemsOnto]
  | j :: rest => by
    simp only [itemsOnto]
    rw [toList_itemsOnto (textOnto _ j) false rest,
      toList_itemsOnto (textOnto (if first then "" else _) j) false rest,
      toList_textOnto _ j, toList_textOnto (if first then "" else _) j]
    cases first <;> simp

theorem toList_membersOnto (acc : String) (first : Bool) : ∀ members : List (String × Json),
    (membersOnto acc first members).toList = acc.toList ++ (membersOnto "" first members).toList
  | [] => by simp [membersOnto]
  | (k, j) :: rest => by
    simp only [membersOnto]
    rw [toList_membersOnto (textOnto _ j) false rest,
      toList_membersOnto (textOnto ((quoteOnto (if first then "" else _) k).push ':') j) false rest,
      toList_textOnto _ j, toList_textOnto ((quoteOnto (if first then "" else _) k).push ':') j]
    cases first <;> simp [toList_quoteOnto]

end

theorem toList_text_string (s : String) : (text (.string s)).toList = quoted s := by
  simp [text, textOnto, toList_quoteOnto]

theorem toList_text_integer (n : Int) : (text (.integer n)).toList = (toString n).toList := by
  simp [text, textOnto]

theorem toList_membersOnto_cons (k : String) (j : Json) (rest : List (String × Json)) :
    (membersOnto "" false ((k, j) :: rest)).toList =
      ',' :: quoted k ++ ':' :: (text j).toList ++ (membersOnto "" false rest).toList := by
  rw [membersOnto, toList_membersOnto, toList_textOnto]
  simp [toList_quoteOnto]

theorem toList_text_object_cons (k : String) (j : Json) (rest : List (String × Json)) :
    (text (.object ((k, j) :: rest))).toList =
      '{' :: quoted k ++ ':' :: (text j).toList ++ (membersOnto "" false rest).toList ++ ['}'] := by
  rw [text, textOnto, String.toList_push, membersOnto, toList_membersOnto, toList_textOnto]
  simp [toList_quoteOnto]

theorem escapeChar_ne_nil (c : Char) : escapeChar c ≠ [] := by
  unfold escapeChar
  repeat' split
  all_goals exact List.cons_ne_nil _ _

theorem length_le_length_quoted (s : String) : s.toList.length ≤ (quoted s).length := by
  have hflat : ∀ cs : List Char, cs.length ≤ (cs.flatMap escapeChar).length := by
    intro cs
    induction cs with
    | nil => simp
    | cons c cs ih =>
      have hpos : 0 < (escapeChar c).length := List.length_pos_iff.2 (escapeChar_ne_nil c)
      simp only [List.length_cons, List.flatMap_cons, List.length_append]
      omega
  have hlength := hflat s.toList
  simp only [quoted, List.length_cons, List.length_append]
  omega

theorem length_escapeChar_le (c : Char) : (escapeChar c).length ≤ 6 := by
  have hhex : ∀ n < 0x20, (Text.Hex.ofNat 4 n).toList.length ≤ 4 := by decide +kernel
  unfold escapeChar
  repeat' split
  all_goals simp only [List.length_cons, List.length_nil, Nat.reduceAdd, Nat.reduceLeDiff]
  have hdigits := hhex c.toNat (by omega)
  omega

theorem length_quoted_le (s : String) : (quoted s).length ≤ 6 * s.toList.length + 2 := by
  have hsum := List.sum_le_card_nsmul (s.toList.map fun c => (escapeChar c).length) 6
    (by simpa using fun c _ => length_escapeChar_le c)
  rw [List.length_map, Nat.nsmul_eq_mul] at hsum
  simp only [quoted, List.length_append, List.length_cons, List.length_nil, List.length_flatMap]
  omega

theorem toList_itemsOnto_cons (first : Bool) (j : Json) (rest : List Json) :
    (itemsOnto "" first (j :: rest)).toList =
    (if first then [] else [',']) ++ (text j).toList ++ (itemsOnto "" false rest).toList := by
  rw [itemsOnto, toList_itemsOnto, toList_textOnto]
  cases first <;> rfl

theorem length_text_strings_le {ss : List String} {n : Nat} (h : ∀ s ∈ ss, s.toList.length ≤ n) :
    (text (.array (ss.map .string))).toList.length ≤ ss.length * (6 * n + 3) + 2 := by
  have hitems : ∀ first, (itemsOnto "" first (ss.map .string)).toList.length ≤
      ss.length * (6 * n + 3) := by
    induction ss with
    | nil => simp [itemsOnto]
    | cons s ss ih =>
      intro first
      obtain ⟨hs, hss⟩ := List.forall_mem_cons.1 h
      have hquoted := length_quoted_le s
      have hrest := ih hss false
      have hcomma : (if first then [] else [',']).length ≤ 1 := by cases first <;> decide
      rw [List.map_cons, toList_itemsOnto_cons, toList_text_string, List.length_cons,
        Nat.add_one_mul]
      simp only [List.length_append]
      omega
  have hlength := hitems true
  rw [text, textOnto, String.toList_push, toList_itemsOnto]
  simp only [String.toList_push, List.length_append, List.length_cons, List.length_nil,
    String.toList_empty]
  omega

theorem isDigit_of_mem_repr {n : Nat} {c : Char} (hc : c ∈ n.repr.toList) : c.isDigit = true := by
  rw [Nat.toList_repr] at hc
  exact Nat.isDigit_of_mem_toDigits (by decide) (by decide) hc

theorem eq_of_toList_repr {m n : Nat} (h : m.repr.toList = n.repr.toList) : m = n := by
  rw [Nat.toList_repr, Nat.toList_repr] at h
  rw [← Nat.ofDigitChars_ten_toDigits (n := m), h, Nat.ofDigitChars_ten_toDigits]

theorem toList_toString_negSucc (n : Nat) :
    (toString (Int.negSucc n)).toList = '-' :: (n + 1).repr.toList :=
  String.toList_append

theorem eq_of_toList_toString {m n : Int} (h : (toString m).toList = (toString n).toList) :
    m = n := by
  have hsign : ∀ k : Nat, '-' ∉ k.repr.toList :=
    fun k hmem => absurd (isDigit_of_mem_repr hmem) (by decide)
  cases m with
  | ofNat m =>
    cases n with
    | ofNat n => exact congrArg Int.ofNat (eq_of_toList_repr h)
    | negSucc n =>
      rw [toList_toString_negSucc] at h
      exact absurd (h ▸ List.mem_cons_self) (hsign m)
  | negSucc m =>
    cases n with
    | ofNat n =>
      rw [toList_toString_negSucc] at h
      exact absurd (h ▸ List.mem_cons_self) (hsign n)
    | negSucc n =>
      rw [toList_toString_negSucc, toList_toString_negSucc] at h
      exact congrArg Int.negSucc (Nat.succ.inj (eq_of_toList_repr (List.cons.inj h).2))

def isNumeral (c : Char) : Bool := c.isDigit || c == '-'

theorem isNumeral_of_mem_toString {n : Int} {c : Char} (hc : c ∈ (toString n).toList) :
    isNumeral c = true := by
  cases n with
  | ofNat m => rw [isNumeral, isDigit_of_mem_repr hc, Bool.true_or]
  | negSucc m =>
    rw [toList_toString_negSucc] at hc
    rcases List.mem_cons.1 hc with rfl | hc
    · decide
    · rw [isNumeral, isDigit_of_mem_repr hc, Bool.true_or]

theorem takeWhile_isNumeral_members (members : List (String × Json)) :
    ((membersOnto "" false members).toList ++ ['\x7d']).takeWhile isNumeral = [] := by
  cases members with
  | nil => rfl
  | cons m rest =>
    rw [toList_membersOnto_cons]
    rfl

theorem eq_of_text_first_integer {k : String} {m n : Int} {rest rest' : List (String × Json)}
    (h : text (.object ((k, .integer m) :: rest)) = text (.object ((k, .integer n) :: rest'))) :
    m = n := by
  have hlist := congrArg String.toList h
  rw [toList_text_object_cons, toList_text_object_cons, toList_text_integer,
    toList_text_integer] at hlist
  simp only [List.cons_append, List.append_assoc, List.cons.injEq, List.append_cancel_left_eq,
    true_and] at hlist
  -- Behind the number stands a comma or the closing brace, neither of which belongs to a numeral.
  have htake := congrArg (List.takeWhile isNumeral) hlist
  rw [List.takeWhile_append_of_pos fun c hc => isNumeral_of_mem_toString hc,
    List.takeWhile_append_of_pos fun c hc => isNumeral_of_mem_toString hc,
    takeWhile_isNumeral_members,
    takeWhile_isNumeral_members, List.append_nil, List.append_nil] at htake
  exact eq_of_toList_toString htake

end LiveLesson.Json
