import LiveLesson.Proofs.Http.Forwarding
import LiveLesson.Proofs.Validation.Payloads

/-!
What a client is told of the rules that a request breaks: every one of them, once, and no other. The
report is short enough to reach the client as it is.
-/

namespace LiveLesson.Http

open Violation

def Request.BreaksIn {α : Type} (record : Record α) (breaks : α → String → RuleCode → Prop)
    (r : Request) (field : String) (code : RuleCode) : Prop :=
  ∃ p, readBody record.wire r = .ok p ∧ breaks p field code

def Request.Breaks (r : Request) : Endpoint → String → RuleCode → Prop
  | .createSession => r.BreaksIn CreateSession.record CreateSession.Breaks
  | .streamStatus => r.BreaksIn StatusCallback.record StatusCallback.Breaks
  | .createQuestion => r.BreaksIn CreateQuestion.record CreateQuestion.Breaks
  | .submitAnswer => r.BreaksIn SubmitAnswer.record SubmitAnswer.Breaks
  | _ => fun _ _ => False

variable {r : Request} {e : Endpoint} {field : String} {code : RuleCode}

theorem Request.Breaks.isPost (h : r.Breaks e field code) : e.isPost = true := by
  cases e <;> first | rfl | exact h.elim

def Reports (rules : List (String × RuleCode)) (p : Program Response) : Prop :=
  p = (ApiError.validation (rules.map RuleCode.entry)).answer

section Payload

variable {α : Type} {record : Record α} {violations : α → List Violation}
  {breaks : α → String → RuleCode → Prop}

theorem breaksIn_iff {p : α} (hread : readBody record.wire r = .ok p) :
    r.BreaksIn record breaks field code ↔ breaks p field code := by
  constructor
  · rintro ⟨p', hread', h⟩
    cases hread.symm.trans hread'
    exact h
  · exact fun h => ⟨p, hread, h⟩

theorem payload_of_violations {p : α} (hread : readBody record.wire r = .ok p)
    (hbroken : violations p ≠ []) :
    payload record violations r =
      .error (.validation ((rules (violations p)).map RuleCode.entry)) := by
  rw [← map_text, payload, hread]
  dsimp only
  split
  · next hnone => exact absurd hnone hbroken
  · rfl

theorem Handlers.orAnswer_of_breaksIn (hreport : ∀ p, IsReport (rules (violations p)))
    (hrules : ∀ {p field code}, (field, code) ∈ rules (violations p) ↔ breaks p field code)
    (hbroken : r.BreaksIn record breaks field code) (k : α → Program Response) :
    ∃ rules, IsReport rules ∧
    (∀ field code, (field, code) ∈ rules ↔ r.BreaksIn record breaks field code) ∧
      Reports rules (orAnswer (payload record violations r) k) := by
  obtain ⟨p, hread, hbreaks⟩ := hbroken
  have hne : violations p ≠ [] := by
    intro hnone
    have hmem := hrules.2 hbreaks
    rw [hnone] at hmem
    cases hmem
  refine ⟨rules (violations p), hreport p, fun _ _ => hrules.trans (breaksIn_iff hread).symm, ?_⟩
  rw [Reports, payload_of_violations hread hne, orAnswer]

end Payload

theorem App.atEndpoint_of_breaks (settings : Settings) (doc : Documentation) (key : String)
    (captures : Captures) (hbroken : r.Breaks e field code) :
    ∃ rules, IsReport rules ∧ (∀ field code, (field, code) ∈ rules ↔ r.Breaks e field code) ∧
      Reports rules (atEndpoint settings doc key r captures e) := by
  cases e with
  | createSession =>
    exact Handlers.orAnswer_of_breaksIn CreateSession.isReport_rules
      CreateSession.mem_rules_iff hbroken _
  | streamStatus =>
    exact Handlers.orAnswer_of_breaksIn StatusCallback.isReport_rules
      StatusCallback.mem_rules_iff hbroken _
  | createQuestion =>
    exact Handlers.orAnswer_of_breaksIn CreateQuestion.isReport_rules
      CreateQuestion.mem_rules_iff hbroken _
  | submitAnswer =>
    exact Handlers.orAnswer_of_breaksIn SubmitAnswer.isReport_rules
      SubmitAnswer.mem_rules_iff hbroken _
  | _ => exact hbroken.elim

theorem size_report_le {rules : List (String × RuleCode)} (h : IsReport rules) :
    (ApiError.validation (rules.map RuleCode.entry)).response.body.utf8ByteSize ≤
      FailureLog.maxBuffered := by
  have hshort : ∀ s ∈ rules.map RuleCode.entry, s.toList.length ≤ 50 := by
    simpa only [List.forall_mem_map] using h.short
  have hlist := Json.length_text_strings_le hshort
  rw [List.length_map] at hlist
  have hfew : rules.length * (6 * 50 + 3) ≤ 6 * (6 * 50 + 3) := Nat.mul_le_mul_right _ h.few
  have hframe : ∀ s ∈ ["error", "Validation failed", "code", "VALIDATION_ERROR",
      "details", "errors"],
      (Json.quoted s).length ≤ 20 := by decide +kernel
  simp only [List.forall_mem_cons] at hframe
  have hbody : (ApiError.validation (rules.map RuleCode.entry)).response.body.toList.length ≤
      2000 := by
    change (Json.object [("error", .string "Validation failed"),
      ("code", .string "VALIDATION_ERROR"),
      ("details",
        .object
          [("errors", .array ((rules.map RuleCode.entry).map .string))])]).text.toList.length ≤ 2000
    have hend : (Json.membersOnto "" false []).toList = [] := rfl
    simp only [Json.toList_text_object_cons, Json.toList_membersOnto_cons,
      Json.toList_text_string, hend, List.length_append, List.length_cons, List.length_nil]
    omega
  have hbytes :=
    Text.Utf8.utf8ByteSize_le (ApiError.validation (rules.map RuleCode.entry)).response.body
  rw [FailureLog.maxBuffered]
  omega

/-- A request whose body can be read but breaks rules is a bad request, whatever is stored. The
response lists the rules that it breaks and no others, each of them once. Only the first option that
offends is told of, and a rule on a question as a whole is the only entry of its list. -/
theorem broken_rules_told {σ : Type} (settings : Settings) (doc : Documentation) (fresh : Fresh)
    (h : Handler σ) (s : σ) (r : Request) (e : Endpoint) (captures : Captures)
    (hr : r.Reaches e captures) (hbroken : ∃ field code, r.Breaks e field code) :
    let response := App.response settings doc fresh h s r
    ∃ rules : List (String × RuleCode), rules ≠ [] ∧
      (∀ field code, (field, code) ∈ rules ↔ r.Breaks e field code) ∧
      (rules.map fun rule => rule.1 ++ ": " ++ rule.2.text).Nodup ∧
      (rules.filter fun rule => rule.1 == "options").length ≤ 1 ∧
      ("__all__" ∈ rules.map Prod.fst → rules.length = 1) ∧
      response.status = 400 ∧
      response.body = (Json.object [
        ("error", .string "Validation failed"),
        ("code", .string "VALIDATION_ERROR"),
        ("details", .object [
          ("errors", .array (rules.map fun rule =>
            .string (rule.1 ++ ": " ++ rule.2.text)))])]).text := by
  intro response
  obtain ⟨field, code, hbroken⟩ := hbroken
  obtain ⟨rules, hreport, hexact, hanswer⟩ :=
    App.atEndpoint_of_breaks settings doc fresh.streamKey captures hbroken
  have hmem : (field, code) ∈ rules := (hexact field code).2 hbroken
  have hpos : 0 < rules.length := List.length_pos_of_mem hmem
  have htold : App.answer settings doc fresh h s r e captures =
      (ApiError.validation (rules.map RuleCode.entry)).response := by
    rw [App.answer, hanswer]
    exact (ApiError.run_answer _ h s).1
  have hbody : response.body = (ApiError.validation (rules.map RuleCode.entry)).response.body := by
    rw [← htold]
    refine (App.body_response_eq_iff hr (hr.method_ne_head hbroken.isPost) ?_).2 ?_
    · rw [htold]
      exact ApiError.isFailure_response _
    · rw [htold]
      exact size_report_le hreport
  refine ⟨rules, List.length_pos_iff.1 hpos, hexact, hreport.distinct, hreport.optionsOnce,
    fun hwhole => Nat.le_antisymm (hreport.wholeAlone hwhole) hpos, ?_, ?_⟩
  · rw [App.status_response hr, htold]
    rfl
  · rw [hbody]
    change (ApiError.validation (rules.map RuleCode.entry)).body.text = _
    rw [ApiError.body, List.map_map]
    rfl

/-- Asks for a question in which each field but the answer breaks a rule. -/
def muddledQuestion : Request :=
  (posted "/api/question/create" <|
    "\x7b\"course_id\":0,\"type\":\"single_choice\",\"content\":\" \"," ++
      "\"options\":[\"a\",\" a \"],\"answer\":\"a\"\x7d").request

theorem muddledQuestion_told :
    let response := App.response .standard .null ⟨"k", "i"⟩ (Tables.handler Tables.calm) .empty
      muddledQuestion
    muddledQuestion.Reaches .createQuestion [] ∧
      muddledQuestion.Breaks .createQuestion "options" .optionDuplicate ∧
      response.status = 400 ∧
      ∃ rules : List (String × RuleCode), ("course_id", .range) ∈ rules ∧
      ("content", .mustNotBeBlank) ∈ rules ∧
        (rules.map fun rule => rule.1 ++ ": " ++ rule.2.text).Nodup := by
  have hr : muddledQuestion.Reaches .createQuestion [] := ⟨by decide +kernel, by decide⟩
  have hread : readBody CreateQuestion.record.wire muddledQuestion =
      .ok ⟨0, .singleChoice, " ", ["a", " a "], "a"⟩ := by decide +kernel
  have hoptions : muddledQuestion.Breaks .createQuestion "options" .optionDuplicate :=
    ⟨_, hread,
      .field (.badOption (by decide)
        ((Rule.firstOptionFault_eq_some_iff [] _).1 (by decide +kernel)))⟩
  obtain ⟨rules, _, hexact, hnodup, _, _, hstatus, _⟩ :=
    broken_rules_told .standard .null ⟨"k", "i"⟩
    (Tables.handler Tables.calm) Tables.empty muddledQuestion .createQuestion [] hr ⟨_, _, hoptions⟩
  have hcourse := (hexact _ _).2 ⟨_, hread, .field (.courseId (by decide))⟩
  have hblank : " ".toList.all Text.isBlank = true := by decide
  have hcontent := (hexact _ _).2 ⟨_, hread, .field (.contentBlank (List.all_eq_true.1 hblank))⟩
  exact ⟨hr, hoptions, hstatus, rules, hcourse, hcontent, hnodup⟩

end LiveLesson.Http
