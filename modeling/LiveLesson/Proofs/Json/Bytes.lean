import LiveLesson.Proofs.Number.Shortest

/-!
The bytes of values. They are those of the parts one after the other, and the first one tells `null`
from everything else.
-/

namespace LiveLesson.Json

open Reader Text

mutual

def IsFinite : Json → Prop
  | .null => True
  | .bool _ => True
  | .integer _ => True
  | .float x => x.IsFinite
  | .string _ => True
  | .array items => AllFinite items
  | .object members => MembersFinite members

def AllFinite : List Json → Prop
  | [] => True
  | j :: rest => IsFinite j ∧ AllFinite rest

def MembersFinite : List (String × Json) → Prop
  | [] => True
  | (_, j) :: rest => IsFinite j ∧ MembersFinite rest

end

def bytes (j : Json) : List UInt8 := Utf8.encode j.text

theorem bytes_eq (j : Json) : bytes j = utf8 j.text.toList := by
  rw [bytes, ← String.ofList_toList (s := j.text), Utf8.encode_ofList, String.toList_ofList]
  rfl

theorem toList_text_float (x : Binary64) : (text (.float x)).toList = x.mixedText.toList := by
  simp [text, textOnto]

theorem bytes_null : bytes .null = [byte 'n', byte 'u', byte 'l', byte 'l'] := by
  simp [bytes_eq, text, textOnto, utf8_cons_ascii]

theorem bytes_bool (b : Bool) : bytes (.bool b) =
    if b then [byte 't', byte 'r', byte 'u', byte 'e']
      else [byte 'f', byte 'a', byte 'l', byte 's', byte 'e'] := by
  cases b <;> simp [bytes_eq, text, textOnto, utf8_cons_ascii]

theorem bytes_integer (n : Int) : bytes (.integer n) = utf8 (toString n).toList := by
  rw [bytes_eq, toList_text_integer]

theorem bytes_float (x : Binary64) : bytes (.float x) = utf8 x.mixedText.toList := by
  rw [bytes_eq, toList_text_float]

theorem bytes_string (s : String) : bytes (.string s) = byte '"' :: stringRest s := by
  rw [bytes_eq, toList_text_string, utf8_quoted]

def elementsFrom (first : Bool) : List Json → List UInt8
  | [] => [byte ']']
  | j :: rest => (if first then [] else [byte ',']) ++ (bytes j ++ elementsFrom false rest)

def nameBytes (k : String) : List UInt8 := byte '"' :: (stringRest k ++ [byte ':'])

def membersFrom (first : Bool) : List (String × Json) → List UInt8
  | [] => [byte '\x7d']
  | (k, j) :: rest => (if first then [] else [byte ',']) ++
    (nameBytes k ++ (bytes j ++ membersFrom false rest))

theorem utf8_itemsOnto (first : Bool) (items : List Json) :
    utf8 (itemsOnto "" first items).toList ++ [byte ']'] = elementsFrom first items := by
  induction items generalizing first with
  | nil => rfl
  | cons j rest ih =>
    rw [toList_itemsOnto_cons, utf8_append, utf8_append, elementsFrom, bytes_eq, ← ih]
    cases first <;> simp [utf8_cons_ascii]

theorem bytes_array (items : List Json) :
    bytes (.array items) = byte '[' :: elementsFrom true items := by
  rw [bytes_eq, text, textOnto, String.toList_push, toList_itemsOnto, ← utf8_itemsOnto]
  simp [utf8_cons_ascii]

theorem toList_membersOnto_first (k : String) (j : Json) (rest : List (String × Json)) :
    (membersOnto "" true ((k, j) :: rest)).toList =
      quoted k ++ ':' :: (text j).toList ++ (membersOnto "" false rest).toList := by
  rw [membersOnto, toList_membersOnto, toList_textOnto]
  simp [toList_quoteOnto]

theorem utf8_membersOnto (first : Bool) (members : List (String × Json)) :
    utf8 (membersOnto "" first members).toList ++ [byte '\x7d'] = membersFrom first members := by
  induction members generalizing first with
  | nil => rfl
  | cons m rest ih =>
    obtain ⟨k, j⟩ := m
    rw [membersFrom, nameBytes, bytes_eq, ← ih]
    cases first with
    | true =>
      rw [toList_membersOnto_first]
      simp [utf8_cons_ascii, utf8_quoted]
    | false =>
      rw [toList_membersOnto_cons]
      simp [utf8_cons_ascii, utf8_quoted]

theorem bytes_object (members : List (String × Json)) :
    bytes (.object members) = byte '\x7b' :: membersFrom true members := by
  rw [bytes_eq, text, textOnto, String.toList_push, toList_membersOnto, ← utf8_membersOnto]
  simp [utf8_cons_ascii]

/-- Where a value begins. -/
structure Begins (j : Json) (b : UInt8) : Prop where
  noSpace : isSpace b = false
  noClose : b ≠ byte ']'
  isNull : b = byte 'n' → j = .null

theorem IsNumber.exists_cons {cs : List Char} (h : IsNumber cs) : ∃ b tail, utf8 cs = b :: tail ∧
    startsNumber b = true := by
  obtain ⟨sign, whole, fraction, exponent, hsign, hwhole, -, -, rfl⟩ := h
  obtain ⟨d, more, -, -, hutf8, hdigit, -⟩ := hwhole.1.exists_cons
  rcases hsign with rfl | rfl
  · refine ⟨byte d, utf8 more ++ utf8 (fraction ++ exponent),
      ?_, by rw [startsNumber, hdigit, Bool.or_true]⟩
    rw [List.nil_append, utf8_append, hutf8, List.cons_append]
  · exact ⟨_, _, utf8_cons_ascii (by decide) _, by decide⟩

theorem begins_of_startsNumber {b : UInt8} (h : startsNumber b = true) (j : Json) : Begins j b := by
  have hall : startsNumber b = true → isSpace b = false ∧ b ≠ byte ']' ∧ b ≠ byte 'n' :=
    forall_byte b (by decide +kernel)
  obtain ⟨hspace, hclose, hn⟩ := hall h
  exact ⟨hspace, hclose, fun heq => absurd heq hn⟩

theorem exists_bytes_cons {j : Json} (h : j.IsFinite) :
    ∃ b tail, bytes j = b :: tail ∧ Begins j b := by
  have hother : ∀ {b : UInt8}, isSpace b = false ∧ b ≠ byte ']' ∧ b ≠ byte 'n' → Begins j b :=
    fun ⟨hspace, hclose, hn⟩ => ⟨hspace, hclose, fun heq => absurd heq hn⟩
  cases j with
  | null => exact ⟨_, _, bytes_null, by decide, by decide, fun _ => rfl⟩
  | bool b => cases b <;> exact ⟨_, _, bytes_bool _, hother (by decide)⟩
  | integer n =>
    obtain ⟨b, tail, hb, hstarts⟩ := (isNumber_toString n).exists_cons
    exact ⟨b, tail, by rw [bytes_integer, hb], begins_of_startsNumber hstarts _⟩
  | float x =>
    obtain ⟨b, tail, hb, hstarts⟩ := (Binary64.IsFinite.isNumber h).exists_cons
    exact ⟨b, tail, by rw [bytes_float, hb], begins_of_startsNumber hstarts _⟩
  | string s => exact ⟨_, _, bytes_string s, hother (by decide)⟩
  | array items => exact ⟨_, _, bytes_array items, hother (by decide)⟩
  | object members => exact ⟨_, _, bytes_object members, hother (by decide)⟩

theorem nextToken_cons {b : UInt8} (h : isSpace b = false) (tail : List UInt8) :
    nextToken (b :: tail) = .ok (some b, b :: tail) := by
  rw [nextToken, List.dropWhile_cons, h, if_neg Bool.false_ne_true]
  rfl

theorem Reader.nextToken_bind {α : Type} (f : Option UInt8 → Reader α) {b : UInt8}
    (h : isSpace b = false) (tail : List UInt8) :
    (nextToken >>= f) (b :: tail) = f (some b) (b :: tail) := by
  simp only [bind, StateT.bind, Except.bind, nextToken_cons h]

theorem ends_elementsFrom (items : List Json) (rest : List UInt8) :
    Ends (elementsFrom false items ++ rest) := by
  cases items with
  | nil => exact ends_cons (.inr (.inl rfl)) _
  | cons j items => exact ends_cons (.inl rfl) _

theorem ends_membersFrom (members : List (String × Json)) (rest : List UInt8) :
    Ends (membersFrom false members ++ rest) := by
  cases members with
  | nil => exact ends_cons (.inr (.inr rfl)) _
  | cons m members => exact ends_cons (.inl rfl) _

end LiveLesson.Json
