import LiveLesson.Proofs.Url.Path
import LiveLesson.Url.Parser

/-!
Addresses of the web. They are on a host, and their paths have at least one segment, each as it
stands in an address.
-/

namespace LiveLesson.Url

open Text

namespace Path

variable {port : Nat} {parts : List String} {segments : List (List Char)}

theorem add_web (port : Nat) (parts : List String) (isLast : Bool) (segment : List Char) :
    add (.web port) parts isLast segment = add .other parts isLast segment := rfl

theorem addAll_web (port : Nat) (parts : List String) (segments : List (List Char)) :
    addAll (.web port) parts segments = addAll .other parts segments := by
  induction segments generalizing parts with
  | nil => rfl
  | cons segment segments ih =>
    cases segments with
    | nil => exact add_web port parts true segment
    | cons next segments => exact ih (add .other parts false segment)

theorem follow_web (port : Nat) (parts : List String) (cs : List Char) :
    follow (.web port) parts cs = addAll .other parts (pieces (.web port) cs) := by
  rw [follow, addAll_web]
  exact if_neg SchemeKind.noConfusion

theorem addAll_ne_nil (parts : List String) (h : segments ≠ []) :
    addAll .other parts segments ≠ [] := by
  induction segments generalizing parts with
  | nil => exact absurd rfl h
  | cons segment segments ih =>
    cases segments with
    | nil =>
      rw [addAll, add_other]
      split
      · simp [closing]
      · split <;> simp [closing]
    | cons next segments => exact ih (add .other parts false segment) (List.cons_ne_nil _ _)

theorem exists_pieces_read_web (port : Nat) (cs : List Char) :
    ∃ rest, read (.web port) cs = addAll .other [] (pieces (.web port) rest) := by
  cases cs with
  | nil => exact ⟨[], follow_web port [] []⟩
  | cons c cs => exact ⟨_, follow_web port [] _⟩

theorem read_web_ne_nil (port : Nat) (cs : List Char) : read (.web port) cs ≠ [] := by
  obtain ⟨rest, hread⟩ := exists_pieces_read_web port cs
  rw [hread]
  exact addAll_ne_nil [] (split_ne_nil '/' _)

theorem isSegment_of_mem_read_web (port : Nat) (cs : List Char) :
    ∀ s ∈ read (.web port) cs, IsSegment s := by
  obtain ⟨rest, hread⟩ := exists_pieces_read_web port cs
  rw [hread]
  exact isSegment_addAll (by simp) fun _ h => notMem_of_mem_split h

end Path

variable {kind : SchemeKind} {port : Nat} {text : String} {url : Url}

theorem readPlace_web {isEnd : Bool} {cs : List Char} {place : Option Authority × Path}
    (h : readPlace (.web port) isEnd cs = .ok place) :
    ∃ a rest, place = (some a, .segments (Path.read (.web port) rest)) := by
  simp only [readPlace, bind, Except.bind, pure, Except.pure] at h
  split at h
  · cases h
  · next read hread => exact ⟨read.1, _, (Except.ok.inj h).symm⟩

/-- An address of the web is a path on a host. -/
theorem parse_web (h : parse text = .ok url) (hweb : SchemeKind.of url.scheme = .web port) :
    ∃ a parts, url.authority = some a ∧ url.path = .segments parts ∧ parts ≠ [] ∧
    ∀ s ∈ parts, Path.IsSegment s := by
  unfold parse at h
  split at h
  · next scheme rest _ =>
    simp only [ofScheme, bind, Except.bind, pure, Except.pure] at h
    split at h
    · cases h
    · next place hplace =>
      cases h
      have hkind : SchemeKind.of scheme = .web port := hweb
      rw [hkind, readHier] at hplace
      obtain ⟨a, rest, rfl⟩ := readPlace_web hplace
      exact ⟨a, _, rfl, rfl, Path.read_web_ne_nil port rest,
        Path.isSegment_of_mem_read_web port rest⟩
  · cases h

end LiveLesson.Url
