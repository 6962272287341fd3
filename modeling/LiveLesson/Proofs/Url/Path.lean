import LiveLesson.Proofs.Text.Percent
import LiveLesson.Proofs.Text.Trim
import LiveLesson.Url.Path

/-!
Paths and their text, for schemes with no rules of their own. The segments that a path is read to
are free of slashes, of dots and of characters that a path does not keep, and the text of such
segments is read back to them.
-/

namespace LiveLesson.Url

open Text

theorem keepsEscapes_keptInPath : Percent.KeepsEscapes keptInPath := by decide

theorem toList_encoded (kept : Char → Bool) (cs : List Char) :
    (encoded kept cs).toList = Percent.encode kept cs :=
  String.toList_ofList

theorem encoded_of_kept {kept : Char → Bool} {s : String} (h : ∀ c ∈ s.toList, kept c = true) :
    encoded kept s.toList = s := by
  rw [encoded, Percent.encode_of_stays h, String.ofList_toList]

namespace Path

structure IsSegment (s : String) : Prop where
  noSlash : '/' ∉ s.toList
  kept : ∀ c ∈ s.toList, keptInPath c = true
  noDot : isDot s = false
  noDoubleDot : isDoubleDot s = false

theorem isSegment_empty : IsSegment "" := ⟨by simp, by simp, by decide, by decide⟩

variable {parts : List String} {segment : List Char} {cs : List Char}

theorem slash_notMem_encode (h : '/' ∉ segment) :
    '/' ∉ Percent.encode keptInPath segment := fun hmem =>
  (Percent.of_mem_encode hmem).elim (fun hslash => h hslash.1) (by decide)

def closing (isLast : Bool) : List String := if isLast then [""] else []

theorem add_other (parts : List String) (isLast : Bool) (segment : List Char) :
    add .other parts isLast segment =
    if isDoubleDot (encoded keptInPath segment) then parts.dropLast ++ closing isLast
    else if isDot (encoded keptInPath segment) then parts ++ closing isLast
    else parts ++ [encoded keptInPath segment] := rfl

def IsDots (segment : List Char) : Prop :=
  isDoubleDot (encoded keptInPath segment) = true ∨ isDot (encoded keptInPath segment) = true

instance (segment : List Char) : Decidable (IsDots segment) := inferInstanceAs (Decidable (_ ∨ _))

theorem add_of_not_isDots (h : ¬IsDots segment) (parts : List String) (isLast : Bool) :
    add .other parts isLast segment = parts ++ [encoded keptInPath segment] := by
  obtain ⟨hdouble, hdot⟩ := not_or.1 h
  rw [add_other, if_neg hdouble, if_neg hdot]

theorem isSegment_add (hparts : ∀ s ∈ parts, IsSegment s) (hslash : '/' ∉ segment) (isLast : Bool) :
    ∀ s ∈ add .other parts isLast segment, IsSegment s := by
  have hclosing : ∀ s ∈ closing isLast, IsSegment s := by
    intro s hs
    cases isLast with
    | false => cases hs
    | true => exact List.mem_singleton.1 hs ▸ isSegment_empty
  rw [add_other]
  split
  · exact List.forall_mem_append.2 ⟨fun s hs => hparts s ((List.dropLast_sublist parts).subset hs),
      hclosing⟩
  · next hdouble =>
    split
    · exact List.forall_mem_append.2 ⟨hparts, hclosing⟩
    · next hdot =>
      refine List.forall_mem_append.2
        ⟨hparts, List.forall_mem_singleton.2 ⟨?_, ?_, by simpa using hdot, by simpa using hdouble⟩⟩
      · rw [toList_encoded]
        exact slash_notMem_encode hslash
      · rw [toList_encoded]
        exact fun c hc => Percent.stays_of_mem_encode keepsEscapes_keptInPath hc

theorem isSegment_addAll {segments : List (List Char)} (hparts : ∀ s ∈ parts, IsSegment s)
    (hslash : ∀ segment ∈ segments, '/' ∉ segment) :
    ∀ s ∈ addAll .other parts segments, IsSegment s := by
  induction segments generalizing parts with
  | nil => exact hparts
  | cons segment segments ih =>
    obtain ⟨hsegment, hsegments⟩ := List.forall_mem_cons.1 hslash
    cases segments with
    | nil => exact isSegment_add hparts hsegment true
    | cons next segments => exact ih (isSegment_add hparts hsegment false) hsegments

theorem addAll_of_not_isDots {pieces : List (List Char)} (h : ∀ piece ∈ pieces, ¬IsDots piece)
    (parts : List String) :
    addAll .other parts pieces = parts ++ pieces.map (encoded keptInPath) := by
  induction pieces generalizing parts with
  | nil => rw [List.map_nil, List.append_nil]; rfl
  | cons piece pieces ih =>
    obtain ⟨hpiece, hpieces⟩ := List.forall_mem_cons.1 h
    cases pieces with
    | nil => exact add_of_not_isDots hpiece parts true
    | cons next pieces =>
      rw [addAll, add_of_not_isDots hpiece, ih hpieces, List.append_assoc]
      · rfl
      · simp

theorem addAll_of_isSegment {more : List String} (h : ∀ s ∈ more, IsSegment s) :
    addAll .other [] (more.map String.toList) = more := by
  have hdots : ∀ piece ∈ more.map String.toList, ¬IsDots piece := by
    simp only [List.forall_mem_map]
    intro s hs
    rw [IsDots, encoded_of_kept (h s hs).kept, (h s hs).noDot, (h s hs).noDoubleDot]
    simp
  have hsame : ∀ s ∈ more, (encoded keptInPath ∘ String.toList) s = id s :=
    fun s hs => encoded_of_kept (h s hs).kept
  rw [addAll_of_not_isDots hdots, List.map_map, List.map_congr_left hsame, List.map_id,
    List.nil_append]

theorem isSlash_other (c : Char) : SchemeKind.other.isSlash c = decide (c = '/') := by
  simp [SchemeKind.isSlash, SchemeKind.isOther]

theorem pieces_other (cs : List Char) : pieces .other cs = split '/' cs := by
  have hsame : (fun c => if SchemeKind.other.isSlash c = true then '/' else c) = id := by
    funext c
    by_cases hc : c = '/' <;> simp [isSlash_other, hc]
  rw [pieces, hsame, List.map_id]

theorem follow_other (cs : List Char) : follow .other [] cs = addAll .other [] (split '/' cs) := by
  rw [follow, pieces_other, if_neg (by decide)]

theorem read_other (cs : List Char) :
    (read .other cs = [] ∧ (cs = [] ∨ ∃ rest, cs = '?' :: rest ∨ cs = '#' :: rest)) ∨
      (∃ rest, cs = '/' :: rest ∧ read .other cs = addAll .other [] (split '/' rest)) ∨
      (∃ c rest, cs = c :: rest ∧ c ∉ ['/', '?', '#'] ∧
        read .other cs = addAll .other [] (split '/' cs)) := by
  match cs with
  | [] => exact .inl ⟨rfl, .inl rfl⟩
  | c :: rest =>
    by_cases hquery : c = '?'
    · subst hquery
      exact .inl ⟨rfl, .inr ⟨rest, .inl rfl⟩⟩
    by_cases hfragment : c = '#'
    · subst hfragment
      exact .inl ⟨rfl, .inr ⟨rest, .inr rfl⟩⟩
    have hread : read .other (c :: rest) =
        follow .other [] (if c = '/' then rest else c :: rest) := by
      unfold read
      split <;> simp_all [isSlash_other]
    by_cases hslash : c = '/'
    · rw [if_pos hslash, follow_other] at hread
      exact .inr (.inl ⟨rest, hslash ▸ rfl, hread⟩)
    · rw [if_neg hslash, follow_other] at hread
      exact .inr (.inr ⟨c, rest, rfl, by simp [hslash, hquery, hfragment], hread⟩)

theorem isSegment_split (cs : List Char) : ∀ s ∈ addAll .other [] (split '/' cs), IsSegment s :=
  isSegment_addAll (by simp) fun _ h => notMem_of_mem_split h

theorem isSegment_of_mem_read (cs : List Char) : ∀ s ∈ read .other cs, IsSegment s := by
  rcases read_other cs with ⟨hread, _⟩ | ⟨rest, _, hread⟩ | ⟨c, rest, _, _, hread⟩
  · rw [hread]
    simp
  · rw [hread]
    exact isSegment_split rest
  · rw [hread]
    exact isSegment_split cs

theorem toList_toText (parts : List String) :
    (Path.segments parts).toText.toList = parts.flatMap fun s => '/' :: s.toList := by
  simp [toText, String.toList_join, List.flatMap_map]

theorem split_flatMap {s : String} {more : List String} (h : ∀ t ∈ s :: more, '/' ∉ t.toList) :
    split '/' (s.toList ++ more.flatMap fun t => '/' :: t.toList) =
      (s :: more).map String.toList := by
  induction more generalizing s with
  | nil => simpa using split_of_notMem (h s List.mem_cons_self)
  | cons t more ih =>
    obtain ⟨hs, hmore⟩ := List.forall_mem_cons.1 h
    rw [List.flatMap_cons, List.cons_append, split_append_sep hs, ih hmore,
      List.map_cons (l := t :: more)]

/-- The text of segments is read back to them. -/
theorem read_toText (h : ∀ s ∈ parts, IsSegment s) :
    read .other (Path.segments parts).toText.toList = parts := by
  rw [toList_toText]
  cases parts with
  | nil => rfl
  | cons s more =>
    have hslash : ∀ t ∈ s :: more, '/' ∉ t.toList := fun t ht => (h t ht).noSlash
    have hread : read .other ('/' :: (s.toList ++ more.flatMap fun t => '/' :: t.toList)) =
        addAll .other [] (split '/' (s.toList ++ more.flatMap fun t => '/' :: t.toList)) :=
        follow_other _
    rw [List.flatMap_cons, List.cons_append, hread, split_flatMap hslash, addAll_of_isSegment h]

end Path

end LiveLesson.Url
