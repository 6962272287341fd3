import LiveLesson.Store.Statement

/-!
Rows of two sources side by side, their groups and what is counted in them. A condition on the left
source may be looked at before its rows are joined. A row that nothing matches is there once, and a
count leaves it out.
-/

namespace LiveLesson

variable {b : Binding} {on : Condition} {columns : List String} {left right : List Row}
  {key : String} {x : Cell}

theorem joinLeft_cons (l : Row) :
    joinLeft b on columns (l :: left) right =
      joinLeft b on columns [l] right ++ joinLeft b on columns left right := by
  simp [joinLeft]

theorem mem_joinLeft_singleton {l row : Row} (h : row ∈ joinLeft b on columns [l] right) :
    ∃ r, row = l ++ r := by
  rw [joinLeft, List.flatMap_singleton] at h
  split at h
  · exact ⟨_, List.mem_singleton.1 h⟩
  · obtain ⟨r, _, rfl⟩ := List.mem_map.1 h
    exact ⟨r, rfl⟩

theorem filter_joinLeft {p : Row → Bool} (h : ∀ l ∈ left, ∀ r, p (l ++ r) = p l) :
    (joinLeft b on columns left right).filter p = joinLeft b on columns (left.filter p) right := by
  induction left with
  | nil => rfl
  | cons l left ih =>
    obtain ⟨hl, hleft⟩ := List.forall_mem_cons.1 h
    have hsame : ∀ row ∈ joinLeft b on columns [l] right, p row = p l := by
      intro row hrow
      obtain ⟨r, rfl⟩ := mem_joinLeft_singleton hrow
      exact hl r
    rw [joinLeft_cons, List.filter_append, ih hleft]
    cases hp : p l with
    | true =>
      rw [List.filter_eq_self.2 fun row hrow => (hsame row hrow).trans hp,
        List.filter_cons_of_pos hp, ← joinLeft_cons]
    | false =>
      rw [List.filter_eq_nil_iff.2 fun row hrow => by simp [hsame row hrow, hp], List.nil_append,
        List.filter_cons_of_neg (by simp [hp])]

theorem groupsOf_of_constant {rows : List Row} (hne : rows ≠ [])
    (h : ∀ row ∈ rows, row.cell key = x) : groupsOf key rows = [rows] := by
  have hkeys : (rows.map (·.cell key)).eraseDups = [x] := by
    rw [List.map_congr_left h, List.map_const']
    cases rows with
    | nil => exact absurd rfl hne
    | cons row rows => simp [List.replicate_succ, List.eraseDups_cons]
  rw [groupsOf, hkeys, List.map_singleton,
    List.filter_eq_self.2 fun row hrow => beq_iff_eq.2 (h row hrow)]

/-- What stands on the right of a row that is joined: all that match it, or nothing once. -/
def matched {α : Type} : List α → List (Option α)
  | [] => [none]
  | a :: as => (a :: as).map some

theorem matched_ne_nil {α : Type} (as : List α) : matched as ≠ [] := by
  cases as <;> exact List.cons_ne_nil _ _

theorem value_count {α : Type} {source name : String} {filter : Option Condition}
    {f : Option α → Row} (hnone : (f none).cell source = .null)
    (hsome : ∀ a, (f (some a)).cell source ≠ .null) {r : α → Bool}
    (hr : ∀ a, (filter.all fun c => c.holds b (f (some a))) = r a) (as : List α) :
    (Output.count source filter name).value b ((matched as).map f) =
      (name, .integer (as.filter r).length) := by
  cases as with
  | nil => simp [Output.value, matched, hnone]
  | cons a as =>
    have hcounted : ∀ a, ((f (some a)).cell source != .null &&
        filter.all fun c => c.holds b (f (some a))) = r a :=
      fun a => by rw [bne_iff_ne.2 (hsome a), Bool.true_and, hr]
    rw [Output.value, matched, List.map_map, List.filter_map, List.length_map]
    exact congrArg (fun given : List α => (name, Cell.integer given.length))
      (List.filter_congr fun a _ => hcounted a)

end LiveLesson
