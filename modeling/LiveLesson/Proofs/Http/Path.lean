import LiveLesson.Http.Route
import LiveLesson.Proofs.Text.Utf8
import Mathlib.Data.List.TakeWhile

/-!
Paths whose variable part is plain text. Such a part leads to its endpoint as it stands, and it is
no number if it does not begin like one.
-/

namespace LiveLesson.Http

/-- Characters of a path that stand for themselves and belong to one part of it. -/
def IsPlain (c : Char) : Prop := c.toNat < 0x80 ∧ c ∉ ['%', '/', '?', '#']

theorem route?_getSession {cs : List Char} (hne : cs ≠ []) (hplain : ∀ c ∈ cs, IsPlain c) :
    route? (String.ofList ("/api/live/sessions/".toList ++ cs)) =
      some (.getSession, [("id", cs)]) := by
  have hpath : pathOf (String.ofList ("/api/live/sessions/".toList ++ cs)) =
      "/api/live/sessions/".toList ++ cs := by
    rw [pathOf, String.toList_ofList, List.takeWhile_eq_self_iff]
    have hfixed : ("/api/live/sessions/".toList.all fun c => c != '?' && c != '#') =
        true := by decide
    intro c hc
    rcases List.mem_append.1 hc with hc | hc
    · exact List.all_eq_true.1 hfixed c hc
    · have hnot := (hplain c hc).2
      simp only [List.mem_cons, List.not_mem_nil, or_false, not_or] at hnot
      simp [hnot]
  have hslash : '/' ∉ cs := fun hc => (hplain _ hc).2 (by decide)
  have hparts : Text.split '/' ("api/live/sessions/".toList ++ cs) =
      ["api".toList, "live".toList, "sessions".toList, cs] := by
    have hsplit : "api/live/sessions/".toList ++ cs =
        "api".toList ++ '/' :: ("live".toList ++ '/' :: ("sessions".toList ++ '/' :: cs)) := by simp
    rw [hsplit, Text.split_append_sep (by decide), Text.split_append_sep (by decide),
      Text.split_append_sep (by decide), Text.split_of_notMem hslash]
  have hempty : cs.isEmpty = false := by simpa using hne
  have hlead : "/api/live/sessions/".toList ++ cs =
      '/' :: ("api/live/sessions/".toList ++ cs) := by simp
  rw [route?, hpath, hlead]
  simp only [hparts]
  simp [Endpoint.all, Endpoint.pattern, matchParts, hempty]

theorem readNumber_eq_none {c : Char} (cs : List Char) (hdigit : c.isDigit = false)
    (hsign : c ∉ ['+', '-']) : readNumber (String.ofList (c :: cs)) = none := by
  obtain ⟨hplus, hminus⟩ : c ≠ '+' ∧ c ≠ '-' := by simpa using hsign
  have hnone : Text.digit? c = none := by rw [Text.digit?, if_neg (by simp [hdigit])]
  have hread : Text.readIntegerChars (Text.Range.signed 64) (c :: cs) = .error .invalidDigit := by
    unfold Text.readIntegerChars
    split <;> simp_all [Text.readDigits]
  rw [readNumber, Text.readInteger, String.toList_ofList, hread]
  rfl

theorem oneNumber_eq_error {c : Char} {cs : List Char} (name : String) (hdigit : c.isDigit = false)
    (hsign : c ∉ ['+', '-']) (hplain : ∀ d ∈ c :: cs, IsPlain d) :
    oneNumber [(name, c :: cs)] = .error (.notInteger (String.ofList (c :: cs))) := by
  have hpercent : '%' ∉ c :: cs := fun hmem => (hplain _ hmem).2 (by decide)
  have hdecode := Text.Percent.decode?_decode_of_ascii (fun d hd => (hplain d hd).1) hpercent
  simp only [oneNumber, decodeCaptures, hdecode, bind, Except.bind, Except.map,
    readNumber_eq_none cs hdigit hsign]
  rfl

end LiveLesson.Http
