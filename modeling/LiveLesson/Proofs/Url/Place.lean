import LiveLesson.Proofs.Text.Trim
import LiveLesson.Proofs.Url.Ipv6
import LiveLesson.Proofs.Url.Path
import LiveLesson.Url.Parser
import Mathlib.Data.List.TakeWhile

/-!
Addresses of places and their text, for schemes with no rules of their own. What stands in the text
of an address in normal form cannot be mistaken for what ends a part of it, so the text is read back
to the address.
-/

namespace LiveLesson

namespace Text

variable {α : Type} [DecidableEq α] {sep : α}

theorem cutLast_of_notMem {cs : List α} (h : sep ∉ cs) : cutLast sep cs = (none, cs) := by
  rw [cutLast, cutFirst_of_notMem (by simpa using h)]
  simp

theorem cutLast_append_sep {back : List α} (h : sep ∉ back) (front : List α) :
    cutLast sep (front ++ sep :: back) = (some front, back) := by
  have hreverse : (front ++ sep :: back).reverse = back.reverse ++ sep :: front.reverse := by simp
  rw [cutLast, hreverse, cutFirst_append_sep (by simpa using h)]
  simp

end Text

namespace Url

open Text

theorem keepsEscapes_keptInUser : Percent.KeepsEscapes keptInUser := by decide

theorem keepsEscapes_isPlain : Percent.KeepsEscapes Host.isPlain := by decide

def isInner (c : Char) : Bool := 0x20 < c.toNat && c != '?' && c != '#'

theorem isInner_of_isPlain {c : Char} (hplain : Host.isPlain c = true) (hspace : c ≠ ' ')
    (hquery : c ≠ '?') (hfragment : c ≠ '#') : isInner c = true := by
  have hlow : 0x20 ≤ c.toNat := by
    simp only [Host.isPlain, Bool.and_eq_true, decide_eq_true_eq] at hplain
    exact hplain.1
  have hne : 0x20 ≠ c.toNat := fun h => hspace (Char.toNat_inj.1 h.symm)
  simp [isInner, hquery, hfragment, Nat.lt_of_le_of_ne hlow hne]

theorem isInner_of_keptInPath {c : Char} (h : keptInPath c = true) : isInner c = true := by
  have hplain : Host.isPlain c = true := by
    simp only [keptInPath, keptInFragment, Bool.and_eq_true] at h
    exact h.1.1
  refine isInner_of_isPlain hplain ?_ ?_ ?_ <;> rintro rfl <;> exact absurd h (by decide)

theorem of_keptInUser {c : Char} (h : keptInUser c = true) :
    isInner c = true ∧ c ≠ '/' ∧ c ≠ ':' ∧ c ≠ '@' := by
  have hpath : keptInPath c = true := by
    rw [keptInUser, Bool.and_eq_true] at h
    exact h.1
  refine ⟨isInner_of_keptInPath hpath, ?_, ?_, ?_⟩ <;> rintro rfl <;> exact absurd h (by decide)

theorem of_mem_toDigits {c : Char} {n : Nat} (h : c ∈ Nat.toDigits 10 n) :
    isInner c = true ∧ c ≠ '/' ∧ c ≠ '@' := by
  have hdigit : c.isDigit = true := Nat.isDigit_of_mem_toDigits (by decide) (by decide) h
  have hne : ∀ d : Char, d.isDigit = false → c ≠ d := by
    rintro d hd rfl
    rw [hdigit] at hd
    cases hd
  have hplain : Host.isPlain c = true := by
    simp only [Char.isDigit, Bool.and_eq_true, decide_eq_true_eq, ge_iff_le,
      UInt32.le_iff_toNat_le] at hdigit
    simp only [Host.isPlain, Bool.and_eq_true, decide_eq_true_eq, Char.toNat]
    exact ⟨Nat.le_trans (by decide) hdigit.1, Nat.le_trans hdigit.2 (by decide)⟩
  exact ⟨isInner_of_isPlain hplain (hne ' ' rfl) (hne '?' rfl) (hne '#' rfl), hne '/' rfl,
    hne '@' rfl⟩

theorem cutPort_of_notMem {name : List Char} (hcolon : ':' ∉ name) (hbracket : '[' ∉ name)
    (tail : List Char) : cutPort false (name ++ ':' :: tail) = (name, some tail) := by
  induction name with
  | nil => simp [cutPort]
  | cons c name ih =>
    obtain ⟨hc, hname⟩ : ':' ≠ c ∧ ':' ∉ name := by simpa using hcolon
    obtain ⟨hc', hname'⟩ : '[' ≠ c ∧ '[' ∉ name := by simpa using hbracket
    rw [List.cons_append, cutPort]
    simp [Ne.symm hc, Ne.symm hc', ih hname hname']

theorem cutPort_inside {inner : List Char} (hbracket : ']' ∉ inner) (tail : List Char) :
    cutPort true (inner ++ ']' :: ':' :: tail) = (inner ++ [']'], some tail) := by
  induction inner with
  | nil => simp [cutPort]
  | cons c inner ih =>
    obtain ⟨hc, hinner⟩ : ']' ≠ c ∧ ']' ∉ inner := by simpa using hbracket
    have hinside : (decide (c = '[') || (true && c != ']')) = true := by simp [Ne.symm hc]
    rw [List.cons_append, cutPort, hinside, ih hinner]
    simp

structure Host.IsPlace (host : Host) : Prop where
  named : host ≠ .absent
  read : verbatim host.toText.toList = .ok host
  inner : ∀ c ∈ host.toText.toList, isInner c = true ∧ c ≠ '/' ∧ c ≠ '@'
  cut : ∀ tail, cutPort false (host.toText.toList ++ ':' :: tail) = (host.toText.toList, some tail)

namespace Host

variable {host : Host} {cs : List Char}

theorem isPlace_ipv6 {groups : List Nat} (h : Ipv6.IsAddress groups) : (ipv6 groups).IsPlace where
  named := by simp [absent]
  read := by
    have hbracket : ('[' :: ((Ipv6.toText groups).toList ++ [']'])) =
        (ipv6 groups).toText.toList := by simp [toText]
    rw [← hbracket, verbatim, bracketed, List.getLast?_concat, List.dropLast_concat]
    simp [Ipv6.parse?_toText h]
  inner := by
    have hdigits : ∀ c ∈ Hex.digits, isInner c = true ∧ c ≠ '/' ∧ c ≠ '@' :=
      List.forall_iff_forall_mem.1 (by decide)
    have hmarks : ∀ c ∈ ['[', ']', ':'], isInner c = true ∧ c ≠ '/' ∧ c ≠ '@' :=
      List.forall_iff_forall_mem.1 (by decide)
    intro c hc
    simp only [toText, String.toList_append, List.mem_append] at hc
    rcases hc with (hc | hc) | hc
    · exact hmarks c (by simpa using .inl (by simpa using hc))
    · rcases Ipv6.mem_toText hc with rfl | hc
      · decide
      · exact hdigits c hc
    · exact hmarks c (by simpa using .inr (.inl (by simpa using hc)))
  cut tail := by
    have hbracket : ']' ∉ (Ipv6.toText groups).toList :=
      fun h => (Ipv6.mem_toText h).elim (by decide) (by decide)
    have hinside := cutPort_inside hbracket tail
    simp [toText, cutPort, hinside]

theorem isPlace_name {text : String} (hne : text ≠ "")
    (hplain : ∀ c ∈ text.toList, isPlain c = true)
    (hrefused : ∀ c ∈ text.toList, isRefused c = false) : (name text).IsPlace where
  named := by simpa [absent] using hne
  read := by
    have hbracket : '[' ∉ text.toList := fun h => absurd (hrefused _ h) (by decide)
    have hnone : text.toList.any isRefused = false := by simpa using hrefused
    unfold verbatim
    split
    · next rest htext => exact absurd (htext ▸ List.mem_cons_self) hbracket
    · rw [toText, if_neg (by simp [hnone]), Percent.encode_of_stays hplain, String.ofList_toList]
  inner c hc := by
    have hc' := hrefused c hc
    have hne : ∀ d, isRefused d = true → c ≠ d := by
      rintro d hd rfl
      rw [hd] at hc'
      cases hc'
    exact ⟨isInner_of_isPlain (hplain c hc) (hne ' ' (by decide)) (hne '?' (by decide))
      (hne '#' (by decide)),
      hne '/' (by decide), hne '@' (by decide)⟩
  cut := cutPort_of_notMem (fun h => absurd (hrefused _ h) (by decide))
    (fun h => absurd (hrefused _ h) (by decide))

theorem isPlace_of_verbatim (h : verbatim cs = .ok host) (hne : host ≠ .absent) : host.IsPlace := by
  unfold verbatim at h
  split at h
  · unfold bracketed at h
    split at h
    · split at h
      · next groups hgroups =>
        cases h
        exact isPlace_ipv6 (Ipv6.isAddress_of_parse? hgroups)
      · cases h
    · cases h
  · split at h
    · cases h
    · next hrefused =>
      cases h
      have hproper : ∀ c ∈ cs, isRefused c = false := by simpa using hrefused
      refine isPlace_name (fun hempty => hne (congrArg name hempty)) (fun c hc => ?_)
        (fun c hc => ?_)
      · rw [String.toList_ofList] at hc
        exact Percent.stays_of_mem_encode keepsEscapes_isPlain hc
      · rw [String.toList_ofList] at hc
        have hescape : ∀ c ∈ Hex.digits, isRefused c = false :=
          List.forall_iff_forall_mem.1 (by decide)
        rcases Percent.of_mem_encode hc with hc | rfl | hc
        · exact hproper c hc.1
        · decide
        · exact hescape c hc

end Host

theorem readPort_toDigits {port : Nat} (h : port < 65536) :
    readPort .other (Nat.toDigits 10 port) = .ok (some port, []) := by
  have hdigits : ∀ c ∈ Nat.toDigits 10 port, c.isDigit = true := fun c hc =>
    Nat.isDigit_of_mem_toDigits (by decide) (by decide) hc
  have htake : (Nat.toDigits 10 port).takeWhile Char.isDigit = Nat.toDigits 10 port :=
    List.takeWhile_eq_self_iff.2 hdigits
  have hdrop : (Nat.toDigits 10 port).dropWhile Char.isDigit = [] :=
    List.dropWhile_eq_nil_iff.2 hdigits
  have hvalue : decimal (Nat.toDigits 10 port) = port := by
    have hten : (fun acc (c : Char) => acc * 10 + (c.toNat - '0'.toNat)) =
        fun acc c => 10 * acc + (c.toNat - '0'.toNat) := by
      funext acc c
      rw [Nat.mul_comm]
    rw [decimal, hten]
    exact Nat.ofDigitChars_ten_toDigits
  have hsmall : ¬65535 < port := by omega
  rw [readPort, htake, hdrop, hvalue]
  simp [hsmall, Nat.toDigits_ne_nil]

namespace Authority

structure IsPlace (a : Authority) : Prop where
  user : ∀ c ∈ a.user.toList, keptInUser c = true
  password : ∀ p ∈ a.password, p ≠ "" ∧ ∀ c ∈ p.toList, keptInUser c = true
  host : a.host.IsPlace
  port : ∃ port < 65536, a.port = some port

variable {a : Authority}

theorem IsPlace.cutLast (h : a.IsPlace) {place : List Char} (hplace : '@' ∉ place) :
    ∃ named, Text.cutLast '@' (a.credentials.toList ++ place) = (named, place) ∧
      readCredentials (named.getD []) = (a.user, a.password) ∧ named ≠ some [] := by
  have hat : '@' ∉ a.user.toList := fun hmem => (of_keptInUser (h.user _ hmem)).2.2.2 rfl
  have hcolon : ':' ∉ a.user.toList := fun hmem => (of_keptInUser (h.user _ hmem)).2.2.1 rfl
  have huser : encoded keptInUser a.user.toList = a.user := encoded_of_kept h.user
  cases hpassword : a.password with
  | none =>
    by_cases hempty : a.user = ""
    · refine ⟨none, ?_, ?_, by simp⟩
      · rw [credentials, hpassword]
        simpa [hempty] using Text.cutLast_of_notMem hplace
      · rw [hempty]
        rfl
    · refine ⟨some a.user.toList, ?_, ?_, by simp [hempty]⟩
      · rw [credentials, hpassword]
        simpa [hempty] using Text.cutLast_append_sep hplace a.user.toList
      · rw [Option.getD_some, readCredentials, Text.cutFirst_of_notMem hcolon]
        simp only [huser]
  | some p =>
    obtain ⟨hne, hkept⟩ := h.password p hpassword
    obtain ⟨c, cs, hchars⟩ :=
      List.exists_cons_of_ne_nil (fun hnil => hne (String.toList_eq_nil_iff.1 hnil))
    have hagain : encoded keptInUser (c :: cs) = p := hchars ▸ encoded_of_kept hkept
    refine ⟨some (a.user.toList ++ ':' :: p.toList), ?_, ?_, by simp⟩
    · rw [credentials, hpassword]
      simpa using Text.cutLast_append_sep hplace (a.user.toList ++ ':' :: p.toList)
    · rw [Option.getD_some, readCredentials, Text.cutFirst_append_sep hcolon, hchars]
      simp only [huser, hagain]

theorem IsPlace.toList_toText (h : a.IsPlace) : ∃ port < 65536, a.port = some port ∧
    a.toText.toList = a.credentials.toList ++
      (a.host.toText.toList ++ ':' :: Nat.toDigits 10 port) := by
  obtain ⟨port, hlt, hport⟩ := h.port
  refine ⟨port, hlt, hport, ?_⟩
  rw [toText, hport]
  simp

/-- The text of an authority is read back to it, and nothing is left. -/
theorem IsPlace.readAuthority_toText (h : a.IsPlace) (isEnd : Bool) :
    readAuthority .other isEnd a.toText.toList = .ok (a, []) := by
  obtain ⟨port, hlt, hport, htext⟩ := h.toList_toText
  have hplace : '@' ∉ a.host.toText.toList ++ ':' :: Nat.toDigits 10 port := by
    have hhost : '@' ∉ a.host.toText.toList := fun hmem => (h.host.inner _ hmem).2.2 rfl
    have hdigits : '@' ∉ Nat.toDigits 10 port := fun hmem => (of_mem_toDigits hmem).2.2 rfl
    simp [hhost, hdigits]
  obtain ⟨named, hcut, hcredentials, hnamed⟩ := h.cutLast hplace
  rw [readAuthority, htext, hcut]
  simp [hcredentials, hnamed, h.host.named, h.host.cut, h.host.read, readPort_toDigits hlt, ← hport,
    SchemeKind.isOther, bind, Except.bind, pure, Except.pure]

theorem IsPlace.inner_credentials (h : a.IsPlace) :
    ∀ c ∈ a.credentials.toList, isInner c = true ∧ c ≠ '/' := by
  have hkept : ∀ {c : Char}, keptInUser c = true → isInner c = true ∧ c ≠ '/' := fun hc =>
    ⟨(of_keptInUser hc).1, (of_keptInUser hc).2.1⟩
  have hmarks : ∀ c ∈ [':', '@'], isInner c = true ∧ c ≠ '/' :=
    List.forall_iff_forall_mem.1 (by decide)
  intro c hc
  rw [credentials] at hc
  split at hc
  · next p hpassword =>
    simp only [String.toList_append, List.mem_append] at hc
    rcases hc with ((hc | hc) | hc) | hc
    · exact hkept (h.user c hc)
    · exact hmarks c (by simpa using .inl (by simpa using hc))
    · exact hkept ((h.password p hpassword).2 c hc)
    · exact hmarks c (by simpa using .inr (by simpa using hc))
  · split at hc
    · cases hc
    · rw [String.toList_append, List.mem_append] at hc
      rcases hc with hc | hc
      · exact hkept (h.user c hc)
      · exact hmarks c (by simpa using .inr (by simpa using hc))

theorem IsPlace.inner (h : a.IsPlace) : ∀ c ∈ a.toText.toList, isInner c = true ∧ c ≠ '/' := by
  obtain ⟨port, -, -, htext⟩ := h.toList_toText
  intro c hc
  simp only [htext, List.mem_append, List.mem_cons] at hc
  rcases hc with hc | hc | rfl | hc
  · exact h.inner_credentials c hc
  · exact ⟨(h.host.inner c hc).1, (h.host.inner c hc).2.1⟩
  · decide
  · exact ⟨(of_mem_toDigits hc).1, (of_mem_toDigits hc).2.1⟩

end Authority

variable {a : Authority} {parts : List String}

theorem Path.inner (h : ∀ s ∈ parts, Path.IsSegment s) :
    ∀ c ∈ (Path.segments parts).toText.toList, isInner c = true := by
  intro c hc
  rw [Path.toList_toText, List.mem_flatMap] at hc
  obtain ⟨s, hs, hc⟩ := hc
  rcases List.mem_cons.1 hc with rfl | hc
  · decide
  · exact isInner_of_keptInPath ((h s hs).kept c hc)

theorem readPlace_toText (ha : a.IsPlace) (hparts : ∀ s ∈ parts, Path.IsSegment s) (isEnd : Bool) :
    readPlace .other isEnd (a.toText.toList ++ (Path.segments parts).toText.toList) =
      .ok (some a, .segments parts) := by
  have hname : ∀ c ∈ a.toText.toList, (!SchemeKind.other.isSlash c) = true := fun c hc => by
    simp [Path.isSlash_other, (ha.inner c hc).2]
  have hpath : (Path.segments parts).toText.toList.takeWhile
      (fun c => !SchemeKind.other.isSlash c) = [] ∧
      (Path.segments parts).toText.toList.dropWhile (fun c => !SchemeKind.other.isSlash c) =
        (Path.segments parts).toText.toList := by
    rw [Path.toList_toText]
    cases parts with
    | nil => exact ⟨rfl, rfl⟩
    | cons s parts => exact ⟨rfl, rfl⟩
  rw [readPlace, List.takeWhile_append_of_pos hname, List.dropWhile_append_of_pos hname,
    hpath.1, hpath.2, List.append_nil, ha.readAuthority_toText]
  simp [bind, Except.bind, pure, Except.pure, Path.read_toText hparts]

theorem isControlOrSpace_of_isSkipped {c : Char} (h : isSkipped c = true) :
    isControlOrSpace c = true := by
  simp only [isSkipped, Bool.or_eq_true, decide_eq_true_eq] at h
  rcases h with (rfl | rfl) | rfl <;> decide

theorem clean_of_isInner {s : String} (h : ∀ c ∈ s.toList, isInner c = true) :
    clean s = s.toList := by
  have hproper : ∀ c ∈ s.toList, isControlOrSpace c = false := fun c hc => by
    have hinner := h c hc
    simp only [isInner, Bool.and_eq_true, decide_eq_true_eq] at hinner
    simpa [isControlOrSpace] using hinner.1.1
  have hkept : ∀ c ∈ s.toList, (!isSkipped c) = true := fun c hc => by
    cases hskip : isSkipped c with
    | false => rfl
    | true => exact absurd (isControlOrSpace_of_isSkipped hskip) (by simp [hproper c hc])
  have hends := dropEndWhile_of_forall hproper
  rw [clean, dropWhile_of_forall hproper, hends, List.filter_eq_self.2 hkept]

theorem cutTail_of_isInner {cs : List Char} (h : ∀ c ∈ cs, isInner c = true) :
    cutTail cs = (cs, none, none) := by
  have hfragment : '#' ∉ cs := fun hmem => absurd (h _ hmem) (by decide)
  have hquery : '?' ∉ cs := fun hmem => absurd (h _ hmem) (by decide)
  rw [cutTail, cutFirst_of_notMem hfragment]
  dsimp only
  rw [cutFirst_of_notMem hquery]

structure IsScheme (scheme : String) : Prop where
  letter : scheme.toList.head?.any Char.isAlpha = true
  chars : ∀ c ∈ scheme.toList, isSchemeChar c = true ∧ c.toLower = c ∧ isInner c = true

theorem scheme?_append {scheme : String} (h : IsScheme scheme) (rest : List Char) :
    scheme? (scheme.toList ++ ':' :: rest) = some (scheme, rest) := by
  have hchars : ∀ c ∈ scheme.toList, isSchemeChar c = true := fun c hc => (h.chars c hc).1
  have hlower : scheme.toList.map Char.toLower = scheme.toList := by
    rw [List.map_congr_left (fun c hc => (h.chars c hc).2.1), List.map_id']
  have hend : isSchemeChar ':' = false := by decide
  rw [scheme?, List.takeWhile_append_of_pos hchars, List.dropWhile_append_of_pos hchars,
    List.takeWhile_cons_of_neg (by simp [hend]), List.dropWhile_cons_of_neg (by simp [hend]),
    List.append_nil]
  have hletter := h.letter
  cases htext : scheme.toList with
  | nil => simp [htext] at hletter
  | cons first more =>
    rw [htext] at hletter hlower
    have hfirst : first.isAlpha = true := by simpa using hletter
    simp only [hfirst, hlower, if_true]
    rw [← htext, String.ofList_toList]

/-- The text of the address of a place is read back to the address. -/
theorem parse_toText {scheme : String} (hscheme : IsScheme scheme)
    (hother : SchemeKind.of scheme = .other) (ha : a.IsPlace)
    (hparts : ∀ s ∈ parts, Path.IsSegment s) :
    parse (toText ⟨scheme, some a, .segments parts, none, none⟩) =
      .ok ⟨scheme, some a, .segments parts, none, none⟩ := by
  have htext : (toText ⟨scheme, some a, .segments parts, none, none⟩).toList =
      scheme.toList ++ ':' :: '/' :: '/' ::
        (a.toText.toList ++ (Path.segments parts).toText.toList) := by
    simp [toText, pathText]
  have hrest : ∀ c ∈ '/' :: '/' :: (a.toText.toList ++ (Path.segments parts).toText.toList),
      isInner c = true := by
    have hslash : isInner '/' = true := by decide
    simp only [List.forall_mem_cons, List.forall_mem_append]
    exact ⟨hslash, hslash, fun c hc => (ha.inner c hc).1, Path.inner hparts⟩
  have hinner : ∀ c ∈ (toText ⟨scheme, some a, .segments parts, none, none⟩).toList,
      isInner c = true := by
    rw [htext, List.forall_mem_append, List.forall_mem_cons]
    exact ⟨fun c hc => (hscheme.chars c hc).2.2, by decide, hrest⟩
  rw [parse, clean_of_isInner hinner, htext, scheme?_append hscheme]
  dsimp only
  rw [ofScheme, hother, cutTail_of_isInner hrest]
  dsimp only
  rw [readHier, readPlace_toText ha hparts]
  rfl

end Url

end LiveLesson
