import LiveLesson.Proofs.Json.Bytes

/-!
Passing over a value. One that is not wanted is passed over as a whole, whatever it holds and
however deep it is nested: a token takes one turn, or two at an opening bracket, so the turns
suffice.
-/

namespace LiveLesson.Json

open Reader Text

/-- Behind these bytes the reading has passed over a value without brackets. -/
def IsPassed (bs : List UInt8) : Prop :=
  ∀ rest, Ends rest → skipScalar (bs ++ rest) = .ok (none, rest)

theorem isPassed_number {cs : List Char} (h : IsNumber cs) : IsPassed (utf8 cs) := by
  intro rest hrest
  obtain ⟨sign, whole, fraction, exponent, hsign, hwhole, hfraction, hexponent, rfl⟩ := h
  have hskip := skipNumber_eq hwhole hfraction hexponent hrest
  rcases hsign with rfl | rfl
  · obtain ⟨d, more, rfl, hd, hutf8, hdigit, -⟩ := hwhole.1.exists_cons
    have hall : isDigit (byte d) = true → isSpace (byte d) = false ∧ byte d ≠ byte 'n' ∧
        byte d ≠ byte 't' ∧
      byte d ≠ byte 'f' ∧ byte d ≠ 0x2D := forall_byte (byte d) (by decide +kernel)
    obtain ⟨hspace, hn, ht, hf, hminus⟩ := hall hdigit
    rw [hutf8, List.cons_append] at hskip
    rw [List.nil_append, utf8_append, utf8_append, List.append_assoc, List.append_assoc, hutf8,
      List.cons_append]
    rw [skipScalar, nextToken_bind _ hspace]
    dsimp only
    rw [if_neg hn, if_neg ht, if_neg hf, if_neg hminus, if_pos hdigit]
    exact Reader.bind_of_ok hskip _
  · rw [List.singleton_append, utf8_cons_ascii (by decide), utf8_append, utf8_append,
      List.cons_append, List.append_assoc, List.append_assoc]
    exact Reader.bind_of_ok hskip fun _ => pure none

theorem isPassed_string (s : String) : IsPassed (byte '"' :: stringRest s) := by
  intro rest _
  rw [List.cons_append, skipScalar, nextToken_bind _ (by decide)]
  dsimp only
  rw [if_neg (by decide), if_neg (by decide), if_neg (by decide), if_neg (by decide),
    if_neg (by decide), if_pos rfl]
  exact (advance_bind _ _).trans (bind_of_ok (skipString_eq s rest) _)

/-- The turns that these bytes take lead from a value on behind it. -/
def IsSkipped (bs : List UInt8) : Prop := ∃ turns ≤ 2 * bs.length, ∀ fuel stack rest, Ends rest →
  skipFrom (fuel + turns) .value stack (bs ++ rest) = skipFrom fuel .after stack rest

/-- The turns that these bytes take lead from an item of a bracket on behind the bracket. -/
def IsClosed (top : Bracket) (bs : List UInt8) : Prop := ∃ turns ≤ 2 * bs.length, ∀ fuel stack rest,
  skipFrom (fuel + turns) .after (top :: stack) (bs ++ rest) = skipFrom fuel .after stack rest

theorem IsPassed.isSkipped {b : UInt8} {bs : List UInt8} (h : IsPassed (b :: bs)) :
    IsSkipped (b :: bs) := by
  refine ⟨1, by rw [List.length_cons]; omega, fun fuel stack rest hrest => ?_⟩
  rw [skipFrom]
  dsimp only
  rw [h rest hrest]

theorem skipFrom_close {top : Bracket} {b : UInt8} (hspace : isSpace b = false)
    (hclose : closes b top = true) (fuel : Nat) (stack : List Bracket) (rest : List UInt8) :
    skipFrom (fuel + 1) .opened (top :: stack) (b :: rest) = skipFrom fuel .after stack rest ∧
      skipFrom (fuel + 1) .after (top :: stack) (b :: rest) = skipFrom fuel .after stack rest := by
  constructor <;>
  · rw [skipFrom]
    dsimp only
    rw [nextToken_cons hspace]
    dsimp only
    rw [if_pos hclose]
    rfl

theorem skipFrom_comma {top : Bracket} {bs rest : List UInt8}
    (hitem : beginItem top bs = .ok ((), rest)) (fuel : Nat) (stack : List Bracket) :
    skipFrom (fuel + 1) .after (top :: stack) (byte ',' :: bs) =
      skipFrom fuel .value (top :: stack) rest := by
  rw [skipFrom]
  dsimp only
  rw [nextToken_cons (by decide)]
  dsimp only
  rw [if_neg (by cases top <;> decide), if_pos rfl, List.drop_succ_cons, List.drop_zero, hitem]

theorem skipFrom_first {top : Bracket} {b : UInt8} (hspace : isSpace b = false)
    (hclose : closes b top = false) {tail rest : List UInt8}
    (hitem : beginItem top (b :: tail) = .ok ((), rest)) (fuel : Nat) (stack : List Bracket) :
    skipFrom (fuel + 1) .opened (top :: stack) (b :: tail) =
      skipFrom fuel .value (top :: stack) rest := by
  rw [skipFrom]
  dsimp only
  rw [nextToken_cons hspace]
  dsimp only
  rw [if_neg (by simp [hclose]), hitem]

theorem isClosed_close {top : Bracket} {b : UInt8} (hspace : isSpace b = false)
    (hclose : closes b top = true) : IsClosed top [b] :=
  ⟨1, by simp, fun fuel stack rest => (skipFrom_close hspace hclose fuel stack rest).2⟩

theorem isClosed_item {top : Bracket} (begins : List UInt8) {item tail : List UInt8}
    (hbegins : ∀ rest, beginItem top (begins ++ rest) = .ok ((), rest)) (hitem : IsSkipped item)
    (htail : IsClosed top tail) (hends : ∀ rest, Ends (tail ++ rest)) :
    IsClosed top (byte ',' :: (begins ++ (item ++ tail))) := by
  obtain ⟨m, hm, hskip⟩ := hitem
  obtain ⟨n, hn, hclose⟩ := htail
  refine ⟨n + m + 1, by simp only [List.length_cons, List.length_append]; omega,
    fun fuel stack rest => ?_⟩
  rw [← Nat.add_assoc, ← Nat.add_assoc, List.cons_append, List.append_assoc, List.append_assoc,
    skipFrom_comma (hbegins _), hskip _ _ _ (hends rest), hclose]

theorem isSkipped_bracket {top : Bracket} {b c : UInt8} (begins : List UInt8)
    {item tail more : List UInt8} (hopen : ∀ rest, skipScalar (b :: rest) = .ok (some top, rest))
    (hfirst : begins ++ item = c :: more) (hspace : isSpace c = false)
    (hnoClose : closes c top = false)
    (hbegins : ∀ rest, beginItem top (begins ++ rest) = .ok ((), rest)) (hitem : IsSkipped item)
    (htail : IsClosed top tail) (hends : ∀ rest, Ends (tail ++ rest)) :
    IsSkipped (b :: (begins ++ (item ++ tail))) := by
  obtain ⟨m, hm, hskip⟩ := hitem
  obtain ⟨n, hn, hclose⟩ := htail
  refine ⟨n + m + 1 + 1, ?_, fun fuel stack rest _ => ?_⟩
  · have hlength := congrArg List.length hfirst
    simp only [List.length_cons, List.length_append] at hlength ⊢
    omega
  · have hbytes : begins ++ (item ++ tail) ++ rest = c :: (more ++ (tail ++ rest)) := by
      rw [List.append_assoc, List.append_assoc, ← List.append_assoc, hfirst, List.cons_append]
    have hitems : beginItem top (c :: (more ++ (tail ++ rest))) =
        .ok ((), item ++ (tail ++ rest)) := by
      rw [← hbytes, List.append_assoc, hbegins, List.append_assoc]
    rw [← Nat.add_assoc, ← Nat.add_assoc, ← Nat.add_assoc, List.cons_append, skipFrom]
    dsimp only
    rw [hopen, hbytes]
    dsimp only
    rw [skipFrom_first hspace hnoClose hitems, hskip _ _ _ (hends rest), hclose]

theorem isSkipped_empty (top : Bracket) {b c : UInt8}
    (hopen : ∀ rest, skipScalar (b :: rest) = .ok (some top, rest)) (hspace : isSpace c = false)
    (hclose : closes c top = true) : IsSkipped [b, c] := by
  refine ⟨2, by simp, fun fuel stack rest _ => ?_⟩
  rw [List.cons_append, skipFrom]
  dsimp only
  rw [hopen]
  exact (skipFrom_close hspace hclose fuel stack rest).1

theorem skipName_append (k : String) (rest : List UInt8) :
    skipName (nameBytes k ++ rest) = .ok ((), rest) := by
  rw [nameBytes, List.cons_append, List.append_assoc, skipName, nextToken_bind _ (by decide)]
  refine (congrFun (if_pos rfl) _).trans ((advance_bind _ _).trans ?_)
  exact bind_of_ok (skipString_eq k (byte ':' :: rest)) _

theorem closes_of_begins {j : Json} {b : UInt8} (h : Begins j b) : closes b .list = false :=
  decide_eq_false h.noClose

mutual

theorem isSkipped_bytes : ∀ {j : Json}, j.IsFinite → IsSkipped (bytes j)
  | .null, _ => by
    rw [bytes_null]
    exact IsPassed.isSkipped fun _ _ => rfl
  | .bool b, _ => by
    rw [bytes_bool]
    cases b <;> exact IsPassed.isSkipped fun _ _ => rfl
  | .integer n, _ => by
    have hnumber := isNumber_toString n
    obtain ⟨b, tail, hbytes, -⟩ := hnumber.exists_cons
    rw [bytes_integer]
    exact hbytes ▸ IsPassed.isSkipped (hbytes ▸ isPassed_number hnumber)
  | .float x, h => by
    have hnumber := Binary64.IsFinite.isNumber h
    obtain ⟨b, tail, hbytes, -⟩ := hnumber.exists_cons
    rw [bytes_float]
    exact hbytes ▸ IsPassed.isSkipped (hbytes ▸ isPassed_number hnumber)
  | .string s, _ => by
    rw [bytes_string]
    exact (isPassed_string s).isSkipped
  | .array [], _ => by
    rw [bytes_array]
    exact isSkipped_empty .list (fun _ => rfl) (by decide) (by decide)
  | .array (j :: items), h => by
    obtain ⟨b, tail, hbytes, hbegins⟩ := exists_bytes_cons h.1
    rw [bytes_array]
    exact isSkipped_bracket [] (fun _ => rfl) hbytes hbegins.noSpace (closes_of_begins hbegins)
      (fun _ => rfl)
      (isSkipped_bytes h.1) (isClosed_elements h.2) (ends_elementsFrom items)
  | .object [], _ => by
    rw [bytes_object]
    exact isSkipped_empty .object (fun _ => rfl) (by decide) (by decide)
  | .object ((k, j) :: members), h => by
    rw [bytes_object]
    exact isSkipped_bracket (nameBytes k) (fun _ => rfl) rfl (by decide) (by decide)
      (skipName_append k)
      (isSkipped_bytes h.1) (isClosed_members h.2) (ends_membersFrom members)

theorem isClosed_elements :
    ∀ {items : List Json}, AllFinite items → IsClosed .list (elementsFrom false items)
  | [], _ => isClosed_close (by decide) (by decide)
  | _ :: items, h => isClosed_item [] (fun _ => rfl) (isSkipped_bytes h.1) (isClosed_elements h.2)
    (ends_elementsFrom items)

theorem isClosed_members : ∀ {members : List (String × Json)}, MembersFinite members →
    IsClosed .object (membersFrom false members)
  | [], _ => isClosed_close (by decide) (by decide)
  | (k, _) :: members, h => isClosed_item (nameBytes k) (skipName_append k) (isSkipped_bytes h.1)
    (isClosed_members h.2) (ends_membersFrom members)

end

/-- A value that is not wanted is passed over. -/
theorem skipValue_eq {j : Json} (h : j.IsFinite) {rest : List UInt8} (hrest : Ends rest) :
    skipValue (bytes j ++ rest) = .ok ((), rest) := by
  obtain ⟨turns, hturns, hskip⟩ := isSkipped_bytes h
  obtain ⟨fuel, hfuel⟩ := Nat.exists_eq_add_of_le' (n := 2 * (bytes j ++ rest).length + 3)
    (m := turns + 1) (by rw [List.length_append]; omega)
  have hturn := hskip (fuel + 1) [] rest hrest
  -- One turn more ends the reading, as no bracket is open.
  rw [skipValue, hfuel, ← Nat.add_assoc, Nat.add_right_comm, hturn]
  rfl

end LiveLesson.Json
