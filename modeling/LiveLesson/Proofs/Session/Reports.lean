import LiveLesson.Proofs.Session.Addresses
import LiveLesson.Proofs.Text.Trim
import LiveLesson.Proofs.Text.Utf8
import LiveLesson.Session.Status

/-!
What a report says: the key that its stream path names, and the event that its status tells. A path
names a key if the key is its third part; a status tells an event by the event's word, in any case
and with blanks around it.
-/

namespace LiveLesson

namespace Text

variable {α : Type} [DecidableEq α] {sep : α}

theorem eq_of_split_eq_cons_cons {cs piece next : List α} {rest : List (List α)}
    (h : split sep cs = piece :: next :: rest) :
    ∃ tail, cs = piece ++ sep :: tail ∧ split sep tail = next :: rest := by
  by_cases hsep : sep ∈ cs
  · obtain ⟨front, tail, rfl, hfront⟩ := List.eq_append_cons_of_mem hsep
    rw [split_append_sep hfront] at h
    obtain ⟨rfl, hrest⟩ := List.cons.inj h
    exact ⟨tail, rfl, hrest⟩
  · rw [split_of_notMem hsep] at h
    cases h

theorem eq_of_split_eq_cons {cs piece : List α} {rest : List (List α)}
    (h : split sep cs = piece :: rest) : cs = piece ∨ ∃ tail, cs = piece ++ sep :: tail := by
  cases rest with
  | nil =>
    refine .inl ?_
    by_cases hsep : sep ∈ cs
    · obtain ⟨front, tail, rfl, hfront⟩ := List.eq_append_cons_of_mem hsep
      rw [split_append_sep hfront] at h
      exact absurd (List.cons.inj h).2 (split_ne_nil sep tail)
    · rw [split_of_notMem hsep] at h
      exact (List.cons.inj h).1
  | cons next rest =>
    obtain ⟨tail, htail, _⟩ := eq_of_split_eq_cons_cons h
    exact .inr ⟨tail, htail⟩

end Text

namespace StreamPath

/-- The path consists of two parts and the key, each of them without a slash, and perhaps of more
behind another slash. -/
inductive Names : String → String → Prop
  | last {a b : List Char} {key : String} : '/' ∉ a → '/' ∉ b → StreamKey.IsPlain key →
    Names (String.ofList (a ++ '/' :: b ++ '/' :: key.toList)) key
  | inner {a b : List Char} {key : String} (rest : List Char) : '/' ∉ a → '/' ∉ b →
    StreamKey.IsPlain key →
    Names (String.ofList (a ++ '/' :: b ++ '/' :: key.toList ++ '/' :: rest)) key

theorem key?_eq_some_iff {path key : String} : key? path = some key ↔ Names path key := by
  constructor
  · intro h
    unfold key? at h
    split at h
    · next piece hpiece =>
      obtain ⟨hblank, rfl⟩ : ¬ piece.all Text.isBlank = true ∧
          String.ofList piece = key := by simpa using h
      -- The path has three parts at least, and each of the first two ends at a slash.
      obtain ⟨a, b, rest, hsplit⟩ : ∃ a b rest, Text.split '/' path.toList =
          a :: b :: piece :: rest := by
        match hparts : Text.split '/' path.toList, hpiece with
        | a :: b :: _ :: rest, rfl => exact ⟨a, b, rest, rfl⟩
      obtain ⟨tail, hpath, htail⟩ := Text.eq_of_split_eq_cons_cons hsplit
      obtain ⟨tail, rfl, hlast⟩ := Text.eq_of_split_eq_cons_cons htail
      have hnot : ∀ part ∈ Text.split '/' path.toList, '/' ∉ part :=
        fun _ hpart => Text.notMem_of_mem_split hpart
      rw [hsplit] at hnot
      have ha : '/' ∉ a := hnot a (by simp)
      have hb : '/' ∉ b := hnot b (by simp)
      have hkey : StreamKey.IsPlain (String.ofList piece) :=
        ⟨by simpa using hnot piece (by simp), by simpa using hblank⟩
      rw [← String.ofList_toList (s := path), hpath]
      rcases Text.eq_of_split_eq_cons hlast with rfl | ⟨rest, rfl⟩
      · simpa using Names.last ha hb hkey
      · simpa using Names.inner rest ha hb hkey
    · cases h
  · rintro (⟨ha, hb, hkey⟩ | ⟨rest, ha, hb, hkey⟩)
    · rw [key?, String.toList_ofList, List.append_assoc, List.cons_append, Text.split_append_sep ha,
        Text.split_append_sep hb, Text.split_of_notMem hkey.noSlash]
      exact (if_neg hkey.notBlank).trans (congrArg some String.ofList_toList)
    · rw [key?, String.toList_ofList, List.append_assoc, List.append_assoc, List.cons_append,
        Text.split_append_sep ha, List.cons_append, Text.split_append_sep hb,
        Text.split_append_sep hkey.noSlash]
      exact (if_neg hkey.notBlank).trans (congrArg some String.ofList_toList)

end StreamPath

namespace Text

/-- The characters are those of a word in small letters, some of them perhaps as capitals. -/
def IsAnyCaseOf (word cs : List Char) : Prop :=
  List.Forall₂ (fun c d => c = d ∨ c = d.toUpper) cs word

end Text

namespace StreamEvent

def letters : List Char := ['s', 't', 'a', 'r', 'o', 'p']

def word : StreamEvent → List Char
  | .start => ['s', 't', 'a', 'r', 't']
  | .stop => ['s', 't', 'o', 'p']

/-- The status is the event's word in any case, and there may be blanks on either side of it. -/
def IsToldBy (e : StreamEvent) (status : String) : Prop :=
  ∃ name, Text.IsAnyCaseOf e.word name ∧ Text.IsPadded name status.toList

theorem toLower_eq_iff {c d : Char} (hd : d ∈ letters) : c.toLower = d ↔ c = d ∨ c = d.toUpper := by
  constructor
  · intro h
    have hascii : c.toNat < 0x80 := by
      unfold Char.toLower at h
      split at h
      · next hupper => exact Nat.lt_of_le_of_lt (UInt32.le_iff_toNat_le.1 hupper.2) (by decide)
      · have hletters : ∀ d ∈ letters, d.toNat < 0x80 := List.forall_iff_forall_mem.1 (by decide)
        exact h ▸ hletters d hd
    have hall : letters.Forall fun d => c.toLower = d → c = d ∨ c = d.toUpper :=
      Text.forall_ascii c hascii (by decide +kernel)
    exact List.forall_iff_forall_mem.1 hall d hd h
  · have hback : ∀ d ∈ letters, d.toLower = d ∧ d.toUpper.toLower = d :=
      List.forall_iff_forall_mem.1 (by decide)
    rintro (rfl | rfl)
    · exact (hback c hd).1
    · exact (hback d hd).2

theorem map_toLower_eq_iff {word cs : List Char} (hword : ∀ d ∈ word, d ∈ letters) :
    cs.map Char.toLower = word ↔ Text.IsAnyCaseOf word cs := by
  induction word generalizing cs with
  | nil => simp [Text.IsAnyCaseOf]
  | cons d word ih =>
    obtain ⟨hd, hword⟩ := List.forall_mem_cons.1 hword
    cases cs with
    | nil => simp [Text.IsAnyCaseOf]
    | cons c cs =>
      rw [List.map_cons, List.cons.injEq, toLower_eq_iff hd, ih hword]
      exact (List.forall₂_cons : Text.IsAnyCaseOf (d :: word) (c :: cs) ↔ _).symm

theorem letters_word (e : StreamEvent) : ∀ d ∈ e.word, d ∈ letters := by
  cases e <;> exact List.forall_iff_forall_mem.1 (by decide)

theorem notBlank_of_isAnyCaseOf {word name : List Char} (hword : ∀ d ∈ word, d ∈ letters)
    (h : Text.IsAnyCaseOf word name) : ∀ c ∈ name, Text.isBlank c = false := by
  have hletters : ∀ d ∈ letters, Text.isBlank d = false ∧ Text.isBlank d.toUpper = false :=
    List.forall_iff_forall_mem.1 (by decide)
  induction h with
  | nil => simp
  | @cons c d name word hcase _ ih =>
    obtain ⟨hd, hword⟩ := List.forall_mem_cons.1 hword
    refine List.forall_mem_cons.2 ⟨?_, ih hword⟩
    rcases hcase with rfl | rfl
    · exact (hletters c hd).1
    · exact (hletters d hd).2

theorem read?_eq_some_iff_lowered {s : String} {e : StreamEvent} :
    read? s = some e ↔ (Text.trimChars s.toList).map Char.toLower = e.word := by
  have hwords : "start".toList = word .start ∧ "stop".toList = word .stop := ⟨rfl, rfl⟩
  simp only [read?, hwords]
  by_cases hstart : (Text.trimChars s.toList).map Char.toLower = word .start
  · rw [if_pos hstart, hstart]
    cases e <;> decide +kernel
  · rw [if_neg hstart, Option.ite_none_right_eq_some]
    cases e with
    | start => exact iff_of_false nofun hstart
    | stop => exact and_iff_left rfl

theorem read?_eq_some_iff {s : String} {e : StreamEvent} : read? s = some e ↔ e.IsToldBy s := by
  rw [read?_eq_some_iff_lowered, map_toLower_eq_iff e.letters_word]
  constructor
  · intro h
    exact ⟨_, h, Text.exists_blanks s.toList⟩
  · rintro ⟨name, hname, hpadded⟩
    rwa [hpadded.trimChars_eq,
      Text.trimChars_of_forall (notBlank_of_isAnyCaseOf e.letters_word hname)]

end StreamEvent

end LiveLesson
