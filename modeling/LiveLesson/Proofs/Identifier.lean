import LiveLesson.Identifier
import LiveLesson.Proofs.Text.Trim
import LiveLesson.Proofs.Text.Word

/-!
Identifiers as text. What is read as an identifier are the decimal integers of 64 bits with blanks
around them, each as its value, and what an identifier is written as is read as that identifier.
-/

namespace LiveLesson

namespace Text

theorem IsNumeral.notBlank {cs digits : List Char} {negative : Bool}
    (h : IsNumeral cs negative digits) : ∀ c ∈ cs, isBlank c = false := by
  cases h with
  | plain hne h => exact fun c hc => isBlank_of_isDigit (h c hc)
  | plus hne h => exact List.forall_mem_cons.2 ⟨rfl, fun c hc => isBlank_of_isDigit (h c hc)⟩
  | minus hne h => exact List.forall_mem_cons.2 ⟨rfl, fun c hc => isBlank_of_isDigit (h c hc)⟩

end Text

namespace Id

variable {e : Entity} {s : String}

theorem read_eq (e : Entity) (s : String) : (read s : Except Text.IntegerError (Id e)) =
    (Text.readIntegerChars (Text.Range.signed 64) (Text.trim s).toList).map Id.mk := rfl

theorem read_eq_ok_iff {i : Id e} :
    read s = .ok i ↔ Text.readIntegerChars (Text.Range.signed 64) (Text.trim s).toList =
      .ok i.value := by
  rw [read_eq]
  cases Text.readIntegerChars (Text.Range.signed 64) (Text.trim s).toList with
  | error problem => exact iff_of_false nofun nofun
  | ok n =>
    simp only [Except.map, Except.ok.injEq]
    exact ⟨fun h => congrArg value h, congrArg Id.mk⟩

theorem toList_trim_text (i : Id e) {front back : String} (hfront : Text.isBlankText front = true)
    (hback : Text.isBlankText back = true) :
    (Text.trim (front ++ i.text ++ back)).toList = i.text.toList := by
  have hpadded : Text.IsPadded i.text.toList (front ++ i.text ++ back).toList :=
    ⟨front.toList, back.toList, by rw [String.toList_append, String.toList_append],
      List.all_eq_true.1 hfront, List.all_eq_true.1 hback⟩
  rw [Text.trim, String.toList_ofList, hpadded.trimChars_eq]
  exact Text.trimChars_of_forall (Text.isNumeral_toString i.value).notBlank

/-- A text is read as an identifier exactly if it is, but for blanks around it, one or more digits
behind a sign or none whose value is a number of 64 bits, and it is read as that value. So what an
identifier is written as is read as that identifier, whatever blanks stand around it. Reading in
words comes to the same, refusals included, and wraps around nowhere. -/
theorem decimals_read (e : Entity) :
    (∀ (s : String) (i : Id e), read s = .ok i ↔ ∃ negative digits,
      Text.IsNumeral (Text.trim s).toList negative digits ∧
        i.value = Text.signedValue negative (Nat.ofDigitChars 10 digits 0) ∧ -2 ^ 63 ≤ i.value ∧
        i.value ≤ 2 ^ 63 - 1) ∧
    (∀ (n : Int64) (front back : String), Text.isBlankText front = true →
      Text.isBlankText back = true →
      read (front ++ text (⟨n.toInt⟩ : Id e) ++ back) = .ok (⟨n.toInt⟩ : Id e)) ∧
    ∀ s : String,
      let reading := Text.Word.read (Text.trim s).toList
      (read s : Except Text.IntegerError (Id e)) = reading.outcome.map (fun n => ⟨n.toInt⟩) ∧
        ∀ step ∈ reading.steps, step.IsExact := by
  have hzero := Text.contains_zero_signed 64
  have hleast : (Text.Range.signed 64).least < 0 := by decide
  refine ⟨fun s i => ?_, fun n front back hfront hback => ?_, fun s => ?_⟩
  · rw [read_eq_ok_iff, Text.readIntegerChars_eq_ok_iff hzero hleast]
    simp only [Text.Word.contains_signed_iff, Int.le_sub_one_iff]
  · have hn : (Text.Range.signed 64).Contains n.toInt :=
      Text.Word.contains_signed_iff.2 ⟨n.le_toInt, n.toInt_lt⟩
    rw [read_eq_ok_iff, toList_trim_text _ hfront hback]
    exact Text.readIntegerChars_toString hzero hleast hn
  · obtain ⟨houtcome, hsteps⟩ := Text.Word.read_eq (Text.trim s).toList
    refine ⟨?_, hsteps⟩
    rw [read_eq, ← houtcome]
    cases (Text.Word.read (Text.trim s).toList).outcome <;> rfl

/-- The least identifier of all, between blanks. One less is no identifier. -/
theorem least_decimal_read :
    text (⟨Int64.minValue.toInt⟩ : SessionId) = "-9223372036854775808" ∧
      (read "\u2003-9223372036854775808\n" : Except Text.IntegerError SessionId) =
        .ok ⟨-9223372036854775808⟩ ∧
      (read "-9223372036854775809" : Except Text.IntegerError SessionId) = .error .tooSmall :=
  ⟨by decide +kernel, (decimals_read .session).2.1 Int64.minValue "\u2003" "\n" (by decide +kernel)
    (by decide +kernel),
    by decide +kernel⟩

end Id

end LiveLesson
