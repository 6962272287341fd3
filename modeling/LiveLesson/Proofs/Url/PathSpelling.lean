import LiveLesson.Proofs.Url.Path
import LiveLesson.Url.Parser

/-!
What the text of a path spells, for schemes with no rules of their own. Going along a text never
adds a byte to what is spelt, and dots, escapes, tabs and a mark at the front each take some away;
so a path spells the text that it was read from exactly if the text has none of them.
-/

namespace LiveLesson

namespace Text

theorem flatMap_split {α : Type} [DecidableEq α] (sep : α) (cs : List α) :
    (split sep cs).flatMap (sep :: ·) = sep :: cs := by
  induction cs with
  | nil => rfl
  | cons c cs ih =>
    unfold split
    split
    · next hc => rw [List.flatMap_cons, ih, hc]; rfl
    · split
      · next hnil => exact absurd hnil (split_ne_nil sep cs)
      · next s rest hsplit =>
        rw [hsplit, List.flatMap_cons, List.cons_append] at ih
        rw [List.flatMap_cons, List.cons_append, List.cons_append, (List.cons.inj ih).2]

namespace Percent

theorem spelt_nil : spelt [] = [] := Spells.nil.spelt_eq

theorem spelt_ne_nil {cs : List Char} (h : cs ≠ []) : spelt cs ≠ [] := by
  have hspells := spells_spelt cs
  intro hnil
  rw [hnil] at hspells
  generalize hbytes : ([] : List UInt8) = bytes at hspells
  cases hspells with
  | nil => exact h rfl
  | escape => cases hbytes
  | @char c _ _ _ _ => exact Utf8.utf8EncodeChar_ne_nil c (List.append_eq_nil_iff.1 hbytes.symm).1

theorem spelt_append_slash (cs ds : List Char) :
    spelt (cs ++ '/' :: ds) = spelt cs ++ 0x2F :: spelt ds := by
  rw [spelt_append (by decide) (by decide), Utf8.utf8EncodeChar_of_ascii (by decide),
    List.append_assoc]
  rfl

theorem spelt_cons_slash (cs : List Char) : spelt ('/' :: cs) = 0x2F :: spelt cs := by
  simpa [spelt_nil] using spelt_append_slash [] cs

theorem spelt_append_flatMap (cs : List Char) (pieces : List (List Char)) :
    spelt (cs ++ pieces.flatMap ('/' :: ·)) = spelt cs ++ pieces.flatMap fun piece =>
    0x2F :: spelt piece := by
  induction pieces generalizing cs with
  | nil => simp
  | cons piece pieces ih =>
    rw [List.flatMap_cons, List.cons_append, spelt_append_slash, ih piece, List.flatMap_cons,
      List.cons_append]

theorem spelt_flatMap (pieces : List (List Char)) :
    spelt (pieces.flatMap ('/' :: ·)) = pieces.flatMap fun piece => 0x2F :: spelt piece := by
  simpa [spelt_nil] using spelt_append_flatMap [] pieces

theorem hasEscape_of_mem_split {cs piece : List Char} (hpiece : piece ∈ split '/' cs)
    (h : HasEscape piece) : HasEscape cs := by
  obtain ⟨before, after, hsplit⟩ := List.append_of_mem hpiece
  obtain ⟨front, back, rfl, high, low, rest, rfl, hhigh, hlow⟩ := h
  have hwhole := flatMap_split '/' cs
  rw [hsplit, List.flatMap_append, List.flatMap_cons] at hwhole
  have hslash : HasEscape ('/' :: cs) := by
    refine ⟨before.flatMap ('/' :: ·) ++ '/' :: front,
      high :: low :: (rest ++ after.flatMap ('/' :: ·)), ?_,
      high, low, _, rfl, hhigh, hlow⟩
    rw [← hwhole]
    simp
  exact (hasEscape_cons_iff.1 hslash).resolve_left fun hmark => absurd hmark.1 (by decide)

end Percent

end Text

namespace Url.Path

open Text Percent

variable {parts : List String} {pieces : List (List Char)} {segment : List Char}

theorem spelt_encoded (cs : List Char) : spelt (encoded keptInPath cs).toList = spelt cs := by
  rw [toList_encoded, spelt_encode keepsEscapes_keptInPath]

theorem eq_of_toLower {c d : Char} (hd : d ∈ ['.', '%', '2', 'e']) (h : c.toLower = d) :
    c = d ∨ c = 'E' ∧ d = 'e' := by
  have hascii : c.toNat < 0x80 := by
    unfold Char.toLower at h
    split at h
    · next hupper => exact Nat.lt_of_le_of_lt (UInt32.le_iff_toNat_le.1 hupper.2) (by decide)
    · have hmarks : ∀ d ∈ ['.', '%', '2', 'e'], d.toNat < 0x80 :=
        List.forall_iff_forall_mem.1 (by decide)
      exact h ▸ hmarks d hd
  have hall : ['.', '%', '2', 'e'].Forall fun d => c.toLower = d → c = d ∨ c = 'E' ∧ d = 'e' :=
    forall_ascii c hascii (by decide +kernel)
  exact List.forall_iff_forall_mem.1 hall d hd h

theorem exists_rest_of_lowered {cs more : List Char}
    (h : cs.map Char.toLower = '.' :: more ∨ cs.map Char.toLower = '%' :: '2' :: 'e' :: more) :
    ∃ rest, rest.map Char.toLower = more ∧ spelt cs = 0x2E :: spelt rest := by
  have hletter : ∀ {c d : Char}, d ∈ ['.', '%', '2'] → c.toLower = d → c = d := fun hd hc =>
    (eq_of_toLower (by simp at hd ⊢; tauto) hc).resolve_right (by rintro ⟨-, rfl⟩; simp at hd)
  rcases h with h | h
  · obtain ⟨c, rest, rfl, hc, hrest⟩ := List.map_eq_cons_iff.1 h
    obtain rfl := hletter (by simp) hc
    exact ⟨rest, hrest, (Spells.char (by simp) (spells_spelt rest)).spelt_eq⟩
  · obtain ⟨c, cs, rfl, hc, h⟩ := List.map_eq_cons_iff.1 h
    obtain ⟨c', cs, rfl, hc', h⟩ := List.map_eq_cons_iff.1 h
    obtain ⟨e, rest, rfl, he, hrest⟩ := List.map_eq_cons_iff.1 h
    obtain rfl := hletter (by simp) hc
    obtain rfl := hletter (by simp) hc'
    rcases eq_of_toLower (by simp) he with rfl | ⟨rfl, -⟩
    · exact ⟨rest, hrest, (Spells.escape (by decide) (by decide) rfl (spells_spelt rest)).spelt_eq⟩
    · exact ⟨rest, hrest, (Spells.escape (by decide) (by decide) rfl (spells_spelt rest)).spelt_eq⟩

theorem spelt_of_isDot {s : String} (h : isDot s = true) : spelt s.toList = [0x2E] := by
  have hdot : lowered s = '.' :: [] ∨
      lowered s = '%' :: '2' :: 'e' :: [] := by simpa [isDot] using h
  obtain ⟨rest, hrest, hspelt⟩ := exists_rest_of_lowered hdot
  rw [hspelt, List.map_eq_nil_iff.1 hrest, spelt_nil]

theorem spelt_of_isDoubleDot {s : String} (h : isDoubleDot s = true) :
    spelt s.toList = [0x2E, 0x2E] := by
  have hdots : ∃ more, (lowered s = '.' :: more ∨ lowered s = '%' :: '2' :: 'e' :: more) ∧
      (more = '.' :: [] ∨ more = '%' :: '2' :: 'e' :: []) := by
    simp only [isDoubleDot, List.map_cons, List.map_nil, List.mem_cons, List.not_mem_nil, or_false,
      decide_eq_true_eq] at h
    rcases h with h | h | h | h
    · exact ⟨_, .inl h, .inl rfl⟩
    · exact ⟨_, .inl h, .inr rfl⟩
    · exact ⟨_, .inr h, .inl rfl⟩
    · exact ⟨_, .inr h, .inr rfl⟩
  obtain ⟨more, hfirst, hsecond⟩ := hdots
  obtain ⟨rest, rfl, hspelt⟩ := exists_rest_of_lowered hfirst
  obtain ⟨last, hlast, hspelt'⟩ := exists_rest_of_lowered hsecond
  rw [hspelt, hspelt', List.map_eq_nil_iff.1 hlast, spelt_nil]

theorem isDots_dots : IsDots ".".toList ∧ IsDots "..".toList := ⟨.inr (by decide), .inl (by decide)⟩

theorem eq_of_isDots (h : IsDots segment) (hescape : ¬HasEscape segment) :
    segment = ".".toList ∨ segment = "..".toList := by
  have hself : spelt segment = Utf8.encode (String.ofList segment) := by
    have hiff := spelt_eq_encode_iff (String.ofList segment)
    rw [String.toList_ofList] at hiff
    exact hiff.2 hescape
  have heq : ∀ s : String, spelt segment = Utf8.encode s → segment = s.toList := fun s hs => by
    rw [← Utf8.encode_injective (hself.symm.trans hs), String.toList_ofList]
  have hdot : Utf8.encode "." = [0x2E] := Utf8.encode_eq "."
  have hdots : Utf8.encode ".." = [0x2E, 0x2E] := Utf8.encode_eq ".."
  rcases h with h | h
  · exact .inr (heq ".." (by rw [hdots, ← spelt_encoded, spelt_of_isDoubleDot h]))
  · exact .inl (heq "." (by rw [hdot, ← spelt_encoded, spelt_of_isDot h]))

theorem not_isDots_nil : ¬IsDots [] := not_or.2 ⟨by decide, by decide⟩

theorem spelt_ne_nil_of_isDots (h : IsDots segment) : spelt segment ≠ [] :=
  spelt_ne_nil fun hnil => not_isDots_nil (hnil ▸ h)

/-- The number of bytes that pieces spell, each behind a slash. -/
def size (pieces : List (List Char)) : Nat :=
  (pieces.flatMap fun piece => 0x2F :: spelt piece).length

theorem length_spelt_flatMap (pieces : List (List Char)) :
    (spelt (pieces.flatMap ('/' :: ·))).length = size pieces := by
  rw [spelt_flatMap, size]

theorem size_split (cs : List Char) : size (split '/' cs) = (spelt cs).length + 1 := by
  rw [← length_spelt_flatMap, flatMap_split, spelt_cons_slash, List.length_cons]

theorem size_append (pieces more : List (List Char)) :
    size (pieces ++ more) = size pieces + size more := by
  simp [size]

theorem size_singleton (piece : List Char) :
    size [piece] = (spelt piece).length + 1 := by simp [size]

theorem size_le_of_mem {piece : List Char} (h : piece ∈ pieces) : size [piece] ≤ size pieces := by
  obtain ⟨front, back, rfl⟩ := List.append_of_mem h
  rw [List.append_cons, size_append, size_append]
  omega

theorem size_closing_le (isLast : Bool) : size ((closing isLast).map String.toList) ≤ 1 := by
  cases isLast <;> simp [closing, size, spelt_nil]

theorem size_dropLast_le (parts : List String) :
    size (parts.dropLast.map String.toList) ≤ size (parts.map String.toList) := by
  rcases List.eq_nil_or_concat parts with rfl | ⟨front, last, rfl⟩
  · exact Nat.le_refl _
  · simp [size_append]

/-- Going on to a segment adds what it spells, and less if it is dots. -/
theorem size_add (parts : List String) (isLast : Bool) (segment : List Char) :
    size ((add .other parts isLast segment).map String.toList) ≤
      size (parts.map String.toList) + size [segment] ∧
      (IsDots segment →
        size ((add .other parts isLast segment).map String.toList) <
          size (parts.map String.toList) + size [segment]) := by
  have hclosing := size_closing_le isLast
  by_cases hdots : IsDots segment
  · have hspelt : 0 < (spelt segment).length := List.length_pos_iff.2 (spelt_ne_nil_of_isDots hdots)
    have hdrop := size_dropLast_le parts
    have hlt : size ((add .other parts isLast segment).map String.toList) <
        size (parts.map String.toList) + size [segment] := by
      rw [add_other, size_singleton]
      split
      · rw [List.map_append, size_append]
        omega
      · next hdouble =>
        rw [if_pos (hdots.resolve_left hdouble), List.map_append, size_append]
        omega
    exact ⟨hlt.le, fun _ => hlt⟩
  · refine ⟨?_, fun h => absurd h hdots⟩
    rw [add_of_not_isDots hdots, List.map_append, size_append, List.map_singleton, size_singleton,
      spelt_encoded, size_singleton]

theorem size_addAll (parts : List String) (pieces : List (List Char)) :
    size ((addAll .other parts pieces).map String.toList) ≤
      size (parts.map String.toList) + size pieces ∧
      ((∃ piece ∈ pieces, IsDots piece) →
        size ((addAll .other parts pieces).map String.toList) <
          size (parts.map String.toList) + size pieces) := by
  induction pieces generalizing parts with
  | nil => exact ⟨Nat.le_add_right _ _, fun ⟨_, hmem, _⟩ => absurd hmem List.not_mem_nil⟩
  | cons piece pieces ih =>
    cases pieces with
    | nil => simpa [addAll] using size_add parts true piece
    | cons next pieces =>
      obtain ⟨hle, hlt⟩ := size_add parts false piece
      obtain ⟨hle', hlt'⟩ := ih (add .other parts false piece)
      have hsize : size (piece :: next :: pieces) = size [piece] + size (next :: pieces) :=
        size_append [piece] _
      rw [addAll, hsize]
      · refine ⟨by omega, ?_⟩
        rintro ⟨dots, hmem, hdots⟩
        rcases List.mem_cons.1 hmem with rfl | hmem
        · have hfirst := hlt hdots
          omega
        · have hmore := hlt' ⟨dots, hmem, hdots⟩
          omega
      · simp

theorem toList_toText_eq (parts : List String) :
    (Path.segments parts).toText.toList = (parts.map String.toList).flatMap ('/' :: ·) := by
  rw [toList_toText, List.flatMap_map]

/-- What the text of a path spells behind its first slash. -/
def tail (parts : List String) : List UInt8 := spelt ((Path.segments parts).toText.toList.drop 1)

theorem tail_nil : tail [] = [] := spelt_nil

theorem spelt_toText (h : parts ≠ []) :
    spelt (Path.segments parts).toText.toList = 0x2F :: tail parts := by
  obtain ⟨s, more, rfl⟩ := List.exists_cons_of_ne_nil h
  rw [tail, toList_toText, List.flatMap_cons, List.cons_append, spelt_cons_slash]
  rfl

theorem length_tail (parts : List String) :
    (tail parts).length = size (parts.map String.toList) - 1 := by
  by_cases h : parts = []
  · rw [h, tail_nil]
    rfl
  · rw [← length_spelt_flatMap, ← toList_toText_eq, spelt_toText h]
    rfl

theorem tail_of_not_isDots {cs : List Char} (h : ∀ piece ∈ split '/' cs, ¬IsDots piece) :
    tail (addAll .other [] (split '/' cs)) = spelt cs := by
  have hparts : addAll .other [] (split '/' cs) = (split '/' cs).map (encoded keptInPath) :=
    addAll_of_not_isDots h []
  have hne : (split '/' cs).map (encoded keptInPath) ≠ [] :=
    fun hnil => split_ne_nil '/' cs (List.map_eq_nil_iff.1 hnil)
  have hspelt : spelt (Path.segments ((split '/' cs).map (encoded keptInPath))).toText.toList =
      0x2F :: spelt cs := by
    rw [toList_toText_eq, spelt_flatMap, ← spelt_cons_slash, ← flatMap_split, spelt_flatMap,
      List.flatMap_map, List.flatMap_map]
    simp only [spelt_encoded]
  rw [hparts]
  exact (List.cons.inj ((spelt_toText hne).symm.trans hspelt)).2

/-- Along a text nothing is added, and dots take something away. -/
theorem length_tail_addAll (cs : List Char) :
    (tail (addAll .other [] (split '/' cs))).length ≤ (spelt cs).length ∧
      ((∃ piece ∈ split '/' cs, IsDots piece) →
        (tail (addAll .other [] (split '/' cs))).length < (spelt cs).length) := by
  obtain ⟨hle, hlt⟩ := size_addAll [] (split '/' cs)
  have hnone : size (([] : List String).map String.toList) = 0 := rfl
  rw [size_split, hnone] at hle hlt
  rw [length_tail]
  refine ⟨by omega, fun ⟨piece, hmem, hdots⟩ => ?_⟩
  have hless := hlt ⟨piece, hmem, hdots⟩
  have hspelt : 0 < (spelt piece).length := List.length_pos_iff.2 (spelt_ne_nil_of_isDots hdots)
  have hpiece := size_le_of_mem hmem
  rw [size_split, size_singleton] at hpiece
  omega

theorem length_filter_utf8 (p : Char → Bool) (cs : List Char) :
    ((cs.filter p).flatMap String.utf8EncodeChar).length ≤
      (cs.flatMap String.utf8EncodeChar).length ∧
      ((∃ c ∈ cs, p c = false) →
        ((cs.filter p).flatMap String.utf8EncodeChar).length <
          (cs.flatMap String.utf8EncodeChar).length) := by
  induction cs with
  | nil => simp
  | cons c cs ih =>
    obtain ⟨hle, hlt⟩ := ih
    have hchar : 0 < (String.utf8EncodeChar c).length :=
      List.length_pos_iff.2 (Utf8.utf8EncodeChar_ne_nil c)
    cases hc : p c with
    | false =>
      rw [List.filter_cons_of_neg (by simp [hc]), List.flatMap_cons, List.length_append]
      exact ⟨by omega, fun _ => by omega⟩
    | true =>
      simp only [List.filter_cons_of_pos hc, List.flatMap_cons, List.length_append]
      refine ⟨by omega, fun ⟨d, hmem, hd⟩ => ?_⟩
      rcases List.mem_cons.1 hmem with rfl | hmem
      · rw [hc] at hd
        cases hd
      · have hless := hlt ⟨d, hmem, hd⟩
        omega

/-- A text of which nothing is left out when it is made a path. -/
structure IsPlainName (name : String) : Prop where
  noEscape : ¬HasEscape name.toList
  noSkipped : ∀ c ∈ name.toList, isSkipped c = false
  noMark : ∀ c ∈ name.toList.head?, c ∉ ['/', '?', '#']
  noDots : ∀ piece ∈ split '/' name.toList, piece ≠ ".".toList ∧ piece ≠ "..".toList

/-- Reading adds nothing. What is not lost has neither a mark at the front nor dots. -/
theorem length_tail_read (cs : List Char) : (tail (read .other cs)).length ≤ (spelt cs).length ∧
    ((tail (read .other cs)).length = (spelt cs).length →
      (∀ c ∈ cs.head?, c ∉ ['/', '?', '#']) ∧ ∀ piece ∈ split '/' cs, ¬IsDots piece) := by
  rcases read_other cs with ⟨hread, rfl | ⟨rest, hmark⟩⟩ | ⟨rest, rfl, hread⟩ | ⟨c, rest, rfl,
    hmark, hread⟩
  · refine ⟨by rw [hread, tail_nil]; exact Nat.zero_le _, fun _ => ⟨by simp, ?_⟩⟩
    simpa [split] using not_isDots_nil
  · rw [hread, tail_nil]
    refine ⟨Nat.zero_le _, fun hnil => ?_⟩
    have hne : cs ≠ [] := by rcases hmark with rfl | rfl <;> simp
    exact absurd (List.length_eq_zero_iff.1 hnil.symm) (spelt_ne_nil hne)
  · have hle := (length_tail_addAll rest).1
    rw [hread, spelt_cons_slash, List.length_cons]
    exact ⟨by omega, fun _ => by omega⟩
  · obtain ⟨hle, hlt⟩ := length_tail_addAll (c :: rest)
    rw [hread]
    refine ⟨hle, fun heq => ⟨by simpa using hmark, fun piece hmem hdots => ?_⟩⟩
    have hless := hlt ⟨piece, hmem, hdots⟩
    omega

theorem not_isDots_of_isPlainName {name : String} (h : IsPlainName name) :
    ∀ piece ∈ split '/' name.toList, ¬IsDots piece := by
  intro piece hmem hdots
  obtain ⟨hdot, hdouble⟩ := h.noDots piece hmem
  exact (eq_of_isDots hdots fun hescape => h.noEscape (hasEscape_of_mem_split hmem hescape)).elim
    hdot hdouble

theorem filter_isSkipped {cs : List Char} (h : ∀ c ∈ cs, isSkipped c = false) :
    cs.filter (fun c => !isSkipped c) = cs :=
  List.filter_eq_self.2 fun c hc => by simp [h c hc]

theorem isPlainName_of_tail {name : String}
    (h : tail (read .other (name.toList.filter fun c => !isSkipped c)) = Utf8.encode name) :
    IsPlainName name := by
  -- No step from the text to what the path spells adds a byte, so that none of them may lose one.
  have hlength := congrArg List.length h
  rw [Utf8.encode_eq] at hlength
  obtain ⟨hread, hproper⟩ := length_tail_read (name.toList.filter fun c => !isSkipped c)
  obtain ⟨hspelt, hescape⟩ := (spells_spelt (name.toList.filter fun c => !isSkipped c)).length
  obtain ⟨hfilter, hskipped⟩ := length_filter_utf8 (fun c => !isSkipped c) name.toList
  have hkept : ∀ c ∈ name.toList, isSkipped c = false := by
    intro c hc
    by_contra hskip
    have hless := hskipped ⟨c, hc, by simpa using hskip⟩
    omega
  rw [filter_isSkipped hkept] at hlength hread hproper hspelt hescape
  obtain ⟨hmark, hdots⟩ := hproper (by omega)
  refine ⟨fun hhas => ?_, hkept, hmark, fun piece hmem => ⟨?_, ?_⟩⟩
  · have hless := hescape hhas
    omega
  · rintro rfl
    exact hdots _ hmem isDots_dots.1
  · rintro rfl
    exact hdots _ hmem isDots_dots.2

theorem tail_of_isPlainName {name : String} (h : IsPlainName name) :
    tail (read .other (name.toList.filter fun c => !isSkipped c)) = Utf8.encode name := by
  rw [filter_isSkipped h.noSkipped, ← (spelt_eq_encode_iff name).2 h.noEscape]
  rcases read_other name.toList with ⟨hread, hnil | ⟨rest, hmark⟩⟩ | ⟨rest, hslash, -⟩ | ⟨c, rest,
    -, -, hread⟩
  · rw [hread, hnil, tail_nil, spelt_nil]
  · refine absurd h.noMark ?_
    rcases hmark with hmark | hmark <;> simp [hmark]
  · refine absurd h.noMark ?_
    simp [hslash]
  · rw [hread, tail_of_not_isDots (not_isDots_of_isPlainName h)]

/-- A text that is made a path is what the path spells behind its first slash, exactly if it is
plain. -/
theorem tail_eq_encode_iff (name : String) :
    tail (read .other (name.toList.filter fun c => !isSkipped c)) = Utf8.encode name ↔
    IsPlainName name :=
  ⟨isPlainName_of_tail, tail_of_isPlainName⟩

end Url.Path

end LiveLesson
