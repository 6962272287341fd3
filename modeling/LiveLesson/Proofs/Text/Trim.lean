import LiveLesson.Text.Blank
import LiveLesson.Text.Split

/-!
Trimming, and cutting what was trimmed. Blanks at the ends of a text are blanks at the ends of its
first and its last piece, so the trimmed pieces of a text are those of the trimmed text.
-/

namespace LiveLesson.Text

variable {cs blanks : List Char}

theorem dropWhile_of_forall {α : Type} {p : α → Bool} {xs : List α} (h : ∀ x ∈ xs, p x = false) :
    xs.dropWhile p = xs := by
  cases xs with
  | nil => rfl
  | cons x xs => rw [List.dropWhile_cons, h x List.mem_cons_self, if_neg Bool.false_ne_true]

theorem dropEndWhile_of_forall {α : Type} {p : α → Bool} {xs : List α} (h : ∀ x ∈ xs, p x = false) :
    dropEndWhile p xs = xs := by
  rw [dropEndWhile, dropWhile_of_forall (by simpa using h), List.reverse_reverse]

theorem trimChars_blanks_append (h : ∀ b ∈ blanks, isBlank b = true) (cs : List Char) :
    trimChars (blanks ++ cs) = trimChars cs := by
  rw [trimChars, List.dropWhile_append_of_pos h, trimChars]

theorem trimChars_append_blanks (cs : List Char) (h : ∀ b ∈ blanks, isBlank b = true) :
    trimChars (cs ++ blanks) = trimChars cs := by
  rw [trimChars, List.dropWhile_append]
  split
  · next hnone =>
    have hempty : cs.dropWhile isBlank = [] := List.isEmpty_iff.1 hnone
    have hblanks : (blanks ++ []).dropWhile isBlank = [] := List.dropWhile_append_of_pos h
    rw [List.append_nil] at hblanks
    rw [hblanks, trimChars, hempty]
  · rw [dropEndWhile_append _ h, trimChars]

theorem exists_blanks (cs : List Char) : ∃ front back :
    List Char, cs = front ++ trimChars cs ++ back ∧
    (∀ b ∈ front, isBlank b = true) ∧ ∀ b ∈ back, isBlank b = true := by
  obtain ⟨back, hback, hblanks⟩ := dropEndWhile_spec isBlank (cs.dropWhile isBlank)
  refine ⟨cs.takeWhile isBlank, back, ?_, fun b hb => List.all_eq_true.1 List.all_takeWhile b hb,
    hblanks⟩
  rw [List.append_assoc, trimChars, ← hback, List.takeWhile_append_dropWhile]

def IsPadded (core cs : List Char) : Prop :=
  ∃ front back, cs = front ++ core ++ back ∧ (∀ b ∈ front, isBlank b = true) ∧
    ∀ b ∈ back, isBlank b = true

theorem IsPadded.trimChars_eq {core : List Char} (h : IsPadded core cs) :
    trimChars cs = trimChars core := by
  obtain ⟨front, back, rfl, hfront, hback⟩ := h
  rw [trimChars_append_blanks _ hback, trimChars_blanks_append hfront]

theorem trimChars_of_forall (h : ∀ c ∈ cs, isBlank c = false) : trimChars cs = cs := by
  rw [trimChars, dropWhile_of_forall h, dropEndWhile_of_forall h]

theorem trimChars_trimChars (cs : List Char) : trimChars (trimChars cs) = trimChars cs := by
  obtain ⟨front, back, hcs, hfront, hback⟩ := exists_blanks cs
  calc trimChars (trimChars cs)
      = trimChars (front ++ trimChars cs ++ back) := by
        rw [trimChars_append_blanks _ hback, trimChars_blanks_append hfront]
    _ = trimChars cs := by rw [← hcs]

theorem length_trimChars_le (cs : List Char) : (trimChars cs).length ≤ cs.length := by
  obtain ⟨front, back, hcs, _, _⟩ := exists_blanks cs
  have hlength := congrArg List.length hcs
  simp only [List.length_append] at hlength
  omega

theorem mem_trimChars_iff {c : Char} (hc : isBlank c = false) (cs : List Char) :
    c ∈ trimChars cs ↔ c ∈ cs := by
  obtain ⟨front, back, hcs, hfront, hback⟩ := exists_blanks cs
  have hnot : ∀ {blanks : List Char}, (∀ b ∈ blanks, isBlank b = true) → c ∉ blanks :=
    fun hblanks hmem => by
    rw [hblanks c hmem] at hc
    cases hc
  constructor
  · intro hmem
    rw [hcs]
    exact List.mem_append_left back (List.mem_append_right front hmem)
  · intro hmem
    rw [hcs] at hmem
    rcases List.mem_append.1 hmem with hmem | hmem
    · exact (List.mem_append.1 hmem).resolve_left (hnot hfront)
    · exact absurd hmem (hnot hback)

theorem trimChars_eq_nil_iff {cs : List Char} : trimChars cs = [] ↔ ∀ c ∈ cs, isBlank c = true := by
  constructor
  · intro hnil c hc
    refine Bool.of_not_eq_false fun hblank => ?_
    rw [← mem_trimChars_iff hblank, hnil] at hc
    exact absurd hc List.not_mem_nil
  · intro hblanks
    have htrim : trimChars (cs ++ []) = trimChars [] := trimChars_blanks_append hblanks []
    rwa [List.append_nil] at htrim

theorem isBlank_of_isDigit {c : Char} (h : c.isDigit = true) : isBlank c = false := by
  have hbounds : 48 ≤ c.toNat ∧ c.toNat ≤ 57 := by
    simpa [Char.isDigit, UInt32.le_iff_toNat_le] using h
  simp only [isBlank, Bool.or_eq_false_iff, Bool.and_eq_false_iff, decide_eq_false_iff_not,
    beq_eq_false_iff_ne]
  omega

theorem trim_eq_trim_iff {s t : String} :
    trim s = trim t ↔ trimChars s.toList = trimChars t.toList :=
  String.ofList_inj

variable {α : Type} [DecidableEq α] {sep : α}

theorem split_cons_of_ne {c : α} (hc : c ≠ sep) {cs piece : List α} {rest : List (List α)}
    (h : split sep cs = piece :: rest) : split sep (c :: cs) = (c :: piece) :: rest := by
  rw [split, if_neg hc, h]

theorem split_eq_splitOn (sep : α) (cs : List α) : split sep cs = cs.splitOn sep := by
  induction cs with
  | nil => rfl
  | cons c cs ih =>
    rw [List.splitOn, List.splitOnP_cons_eq_if_modifyHead, ← List.splitOn, ← ih]
    by_cases hc : c = sep
    · rw [split, if_pos hc, if_pos (beq_iff_eq.2 hc)]
    · obtain ⟨piece, rest, hcs⟩ := List.exists_cons_of_ne_nil (split_ne_nil sep cs)
      rw [split_cons_of_ne hc hcs, if_neg (by simpa using hc), hcs, List.modifyHead_cons]

theorem split_append_front {front : List α} (hfront : sep ∉ front) (cs : List α) :
    ∃ first rest, split sep cs = first :: rest ∧
    split sep (front ++ cs) = (front ++ first) :: rest := by
  induction front with
  | nil =>
    obtain ⟨first, rest, h⟩ := List.exists_cons_of_ne_nil (split_ne_nil sep cs)
    exact ⟨first, rest, h, h⟩
  | cons c front ih =>
    obtain ⟨hc, hrest⟩ : sep ≠ c ∧ sep ∉ front := by simpa using hfront
    obtain ⟨first, rest, hcs, hmore⟩ := ih hrest
    exact ⟨first, rest, hcs, split_cons_of_ne (Ne.symm hc) hmore⟩

theorem split_append_back {back : List α} (hback : sep ∉ back) (cs : List α) :
    ∃ front last, split sep cs = front ++ [last] ∧
    split sep (cs ++ back) = front ++ [last ++ back] := by
  induction cs with
  | nil => exact ⟨[], [], rfl, split_of_notMem hback⟩
  | cons c cs ih =>
    obtain ⟨front, last, hcs, hmore⟩ := ih
    by_cases hc : c = sep
    · refine ⟨[] :: front, last, ?_, ?_⟩
      · rw [split, if_pos hc, hcs, List.cons_append]
      · rw [List.cons_append, split, if_pos hc, hmore, List.cons_append]
    · cases front with
      | nil => exact ⟨[], c :: last, split_cons_of_ne hc hcs, split_cons_of_ne hc hmore⟩
      | cons piece front =>
        exact ⟨(c :: piece) :: front, last, split_cons_of_ne hc hcs, split_cons_of_ne hc hmore⟩

/-- It makes no difference to the trimmed pieces whether the text is trimmed first. -/
theorem map_trimChars_split {sep : Char} (hsep : isBlank sep = false) (cs : List Char) :
    (split sep (trimChars cs)).map trimChars = (split sep cs).map trimChars := by
  have hnot : ∀ {blanks : List Char}, (∀ b ∈ blanks, isBlank b = true) → sep ∉ blanks := by
    intro blanks hblanks hmem
    rw [hblanks sep hmem] at hsep
    cases hsep
  obtain ⟨front, back, hcs, hfront, hback⟩ := exists_blanks cs
  obtain ⟨first, rest, hmiddle, hwithFront⟩ := split_append_front (hnot hfront) (trimChars cs)
  obtain ⟨pieces, last, hbefore, hafter⟩ := split_append_back (hnot hback) (front ++ trimChars cs)
  calc (split sep (trimChars cs)).map trimChars
      = (split sep (front ++ trimChars cs)).map trimChars := by
        rw [hmiddle, hwithFront, List.map_cons, List.map_cons, trimChars_blanks_append hfront]
    _ = (split sep (front ++ trimChars cs ++ back)).map trimChars := by
        rw [hbefore, hafter, List.map_append, List.map_append, List.map_singleton,
          List.map_singleton, trimChars_append_blanks last hback]
    _ = (split sep cs).map trimChars := by rw [← hcs]

end LiveLesson.Text
