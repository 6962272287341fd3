/-!
Blank characters and trimming. A character is blank when it has the White_Space property; a text is
blank when every character of it is. Trimming drops blanks at both ends and nothing else.
-/

namespace LiveLesson.Text

/-- The White_Space property: the ASCII blanks, NEL, the no-break space and the blanks above
U+1000. -/
def isBlank (c : Char) : Bool :=
  let n := c.toNat
  (9 ≤ n && n ≤ 13) || n == 0x20 || n == 0x85 || n == 0xA0 || n == 0x1680 ||
    (0x2000 ≤ n && n ≤ 0x200A) || n == 0x2028 || n == 0x2029 || n == 0x202F || n == 0x205F ||
    n == 0x3000

def dropEndWhile {α : Type} (p : α → Bool) (xs : List α) : List α :=
  (xs.reverse.dropWhile p).reverse

def trimChars (cs : List Char) : List Char := dropEndWhile isBlank (cs.dropWhile isBlank)

def trim (s : String) : String := String.ofList (trimChars s.toList)

def isBlankText (s : String) : Bool := s.toList.all isBlank

theorem dropEndWhile_append {α : Type} {p : α → Bool} (xs : List α) {ys : List α}
    (h : ∀ y ∈ ys, p y = true) : dropEndWhile p (xs ++ ys) = dropEndWhile p xs := by
  have hr : ∀ y ∈ ys.reverse, p y = true := by simpa using h
  simp [dropEndWhile, List.dropWhile_append_of_pos hr]

theorem dropEndWhile_spec {α : Type} (p : α → Bool) (xs : List α) :
    ∃ ys, xs = dropEndWhile p xs ++ ys ∧ ∀ y ∈ ys, p y = true := by
  refine ⟨(xs.reverse.takeWhile p).reverse, ?_, ?_⟩
  · rw [dropEndWhile, ← List.reverse_append, List.takeWhile_append_dropWhile, List.reverse_reverse]
  · intro y hy
    exact List.all_eq_true.1 List.all_takeWhile y (List.mem_reverse.1 hy)

end LiveLesson.Text
