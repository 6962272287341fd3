import LiveLesson.Proofs.Http.Path
import LiveLesson.Proofs.Http.Protocol
import LiveLesson.Proofs.Json.Text

/-!
How failures reach the client. The log of failures passes an answer on as the endpoint gave it,
unless its body is larger than what is buffered: then the status goes out alone. A path can be long
enough for that, as the sentence that refuses it quotes it.
-/

namespace LiveLesson.Http

namespace ApiError

theorem body_eq (e : ApiError) :
    ∃ more, e.body = .object (("error", .string e.message) :: ("code", .string e.code) :: more) :=
  ⟨_, rfl⟩

theorem body_response_ne_empty (e : ApiError) : e.response.body ≠ "" := by
  obtain ⟨more, hbody⟩ := e.body_eq
  intro hempty
  have htext : e.body.text.toList = [] := by rw [show e.body.text = "" from hempty]; rfl
  rw [hbody, Json.toList_text_object_cons] at htext
  cases htext

theorem length_message_le (e : ApiError) :
    e.message.toList.length ≤ e.response.body.utf8ByteSize := by
  obtain ⟨more, hbody⟩ := e.body_eq
  refine Nat.le_trans ?_ (Text.Utf8.length_le_utf8ByteSize _)
  rw [show e.response.body = e.body.text from rfl, hbody, Json.toList_text_object_cons,
    Json.toList_text_string]
  have hquoted := Json.length_le_length_quoted e.message
  simp only [List.length_append, List.length_cons]
  omega

end ApiError

namespace App

section Forwarding

variable {σ : Type} (settings : Settings) (doc : Documentation) (fresh : Fresh) (h : Handler σ)
  (s : σ) (r : Request)

def answer (e : Endpoint) (captures : Captures) : Response :=
  ((atEndpoint settings doc fresh.streamKey r captures e).run h s).result

def response : Response := ((serve settings doc fresh r).run h s).result

/-- A failure that is answered at the endpoint of the request reaches the client as it is. -/
def Forwards : Prop :=
  ∀ e captures, r.Reaches e captures →
    (answer settings doc fresh h s r e captures).isFailure = true →
    (response settings doc fresh h s r).status =
      (answer settings doc fresh h s r e captures).status ∧
      (response settings doc fresh h s r).body = (answer settings doc fresh h s r e captures).body

end Forwarding

variable {σ : Type} {settings : Settings} {doc : Documentation} {fresh : Fresh} {h : Handler σ}
  {s : σ} {r : Request}
  {e : Endpoint} {captures : Captures}

theorem exists_failure (hfailure : (answer settings doc fresh h s r e captures).isFailure = true) :
    ∃ failure : ApiError, answer settings doc fresh h s r e captures = failure.response :=
  ((atEndpoint_obeys settings doc fresh.streamKey r captures e).exchanges h s).told hfailure

theorem status_response (hr : r.Reaches e captures) :
    (response settings doc fresh h s r).status =
      (answer settings doc fresh h s r e captures).status := by
  rw [response, (serve_run hr h s).1, status_finish, FailureLog.status_passed]
  rfl

theorem body_response (hr : r.Reaches e captures)
    (hfailure : (answer settings doc fresh h s r e captures).isFailure = true) :
    (response settings doc fresh h s r).body =
      if r.method = "HEAD" ∨ FailureLog.maxBuffered <
        (answer settings doc fresh h s r e captures).body.utf8ByteSize
      then "" else (answer settings doc fresh h s r e captures).body := by
  have hpassed := FailureLog.body_passed hfailure
  rw [response, (serve_run hr h s).1, body_finish]
  by_cases hmethod : r.method = "HEAD"
  · rw [if_pos hmethod, if_pos (.inl hmethod)]
  · rw [if_neg hmethod]
    refine hpassed.trans (if_congr ?_ rfl rfl)
    rw [or_iff_right hmethod]

theorem body_response_eq_iff (hr : r.Reaches e captures) (hmethod : r.method ≠ "HEAD")
    (hfailure : (answer settings doc fresh h s r e captures).isFailure = true) :
    (response settings doc fresh h s r).body = (answer settings doc fresh h s r e captures).body ↔
      (answer settings doc fresh h s r e captures).body.utf8ByteSize ≤ FailureLog.maxBuffered := by
  obtain ⟨failure, htold⟩ := exists_failure hfailure
  have hne : (answer settings doc fresh h s r e captures).body ≠ "" :=
    htold ▸ failure.body_response_ne_empty
  rw [body_response hr hfailure]
  by_cases hlarge : FailureLog.maxBuffered <
    (answer settings doc fresh h s r e captures).body.utf8ByteSize
  · rw [if_pos (.inr hlarge)]
    exact iff_of_false hne.symm (Nat.not_le.2 hlarge)
  · rw [if_neg fun hlost => hlost.elim hmethod hlarge]
    exact iff_of_true rfl (Nat.not_lt.1 hlarge)

end App

section Conversation

variable {σ : Type} (settings : Settings) (doc : Documentation) (fresh : Fresh)
  (h : Handler σ) (s : σ)

/-- A failure at an endpoint is told as an object that begins with a sentence and a code. It reaches
the client with its status. Its body comes along as it is, exactly if it is not larger than what is
buffered, and is lost otherwise; only answers to `HEAD` have no body anyway. -/
theorem failure_told_and_forwarded (r : Request) (e : Endpoint) (captures : Captures)
    (hr : r.Reaches e captures)
    (hfailure : (App.answer settings doc fresh h s r e captures).isFailure = true) :
    let answer := App.answer settings doc fresh h s r e captures
    let response := App.response settings doc fresh h s r
    (∃ message code more,
      answer.body =
        (Json.object (("error", .string message) :: ("code", .string code) :: more)).text) ∧
    response.status = answer.status ∧
    response.body =
      (if r.method = "HEAD" ∨ FailureLog.maxBuffered < answer.body.utf8ByteSize then ""
        else answer.body) ∧
    (r.method ≠ "HEAD" → (response.body = answer.body ↔
      answer.body.utf8ByteSize ≤ FailureLog.maxBuffered)) := by
  intro answer response
  obtain ⟨failure, htold⟩ := App.exists_failure hfailure
  obtain ⟨more, hmore⟩ := failure.body_eq
  have hbody : answer.body = failure.body.text := congrArg Response.body htold
  refine ⟨⟨failure.message, failure.code, more, by rw [hbody, hmore]⟩, App.status_response hr,
    App.body_response hr hfailure, fun hmethod => App.body_response_eq_iff hr hmethod hfailure⟩

def askedBy (letters : Nat) : Request :=
  ⟨"GET", String.ofList ("/api/live/sessions/".toList ++ List.replicate letters 'a'), [], []⟩

theorem askedBy_reaches (n : Nat) :
    (askedBy (n + 1)).Reaches .getSession [("id", List.replicate (n + 1) 'a')] where
  route := route?_getSession (by simp) fun c hc => by
    obtain rfl := List.eq_of_mem_replicate hc
    exact ⟨by decide, by decide⟩
  method := rfl

def refusal (letters : Nat) : ApiError :=
  .ofPathError (.notInteger (String.ofList (List.replicate letters 'a')))

theorem length_refusal (n : Nat) : (refusal n).message.toList.length = n + 39 := by
  have hmessage : (refusal n).message =
      "Invalid URL: Cannot parse `" ++ String.ofList (List.replicate n 'a') ++ "` to a `i64`" := rfl
  have hfront : "Invalid URL: Cannot parse `".toList.length = 27 := by decide
  have hback : "` to a `i64`".toList.length = 12 := by decide
  rw [hmessage, String.toList_append, String.toList_append,
    String.toList_ofList (l := List.replicate n 'a'), List.length_append, List.length_append,
    hfront, hback, List.length_replicate]
  omega

theorem answer_askedBy (n : Nat) :
    App.answer settings doc fresh h s (askedBy (n + 1)) .getSession
    [("id", List.replicate (n + 1) 'a')] =
      (refusal (n + 1)).response := by
  have hplain : ∀ d ∈ List.replicate (n + 1) 'a', IsPlain d := by
    intro d hd
    obtain rfl := List.eq_of_mem_replicate hd
    exact ⟨by decide, by decide⟩
  have hnumber := oneNumber_eq_error "id" (by decide) (by decide) hplain
  rw [App.answer, App.atEndpoint, Handlers.getSession, List.replicate_succ, hnumber]
  rfl

theorem short_refusal_forwarded :
    (askedBy 3).Reaches .getSession [("id", List.replicate 3 'a')] ∧
      (App.response .standard .null ⟨"k", "i"⟩ (Tables.handler Tables.calm) .empty
        (askedBy 3)).body =
        "\x7b\"error\":\"Invalid URL: Cannot parse `aaa` to a `i64`\",\"code\":\"BAD_REQUEST\"\x7d" := by
  have hr := askedBy_reaches 2
  refine ⟨hr, ?_⟩
  have hbody : (refusal 3).response.body =
      "\x7b\"error\":\"Invalid URL: Cannot parse `aaa` to a `i64`\",\"code\":\"BAD_REQUEST\"\x7d" := by
    refine String.toList_inj.1 ?_
    change (Json.object [("error", .string _), ("code", .string _)]).text.toList = _
    rw [Json.toList_text_object_cons, Json.toList_membersOnto_cons, Json.toList_text_string,
      Json.toList_text_string]
    decide +kernel
  have htold := failure_told_and_forwarded .standard .null ⟨"k", "i"⟩ (Tables.handler Tables.calm)
    Tables.empty
    (askedBy 3) .getSession _ hr
    (by rw [answer_askedBy]; exact (refusal 3).isFailure_response)
  rw [answer_askedBy] at htold
  obtain ⟨_, _, _, hsame⟩ := htold
  have hsmall : (refusal 3).response.body.utf8ByteSize ≤ FailureLog.maxBuffered := by
    rw [hbody]
    decide
  exact ((hsame (by decide)).2 hsmall).trans hbody

theorem not_forwards_askedBy {n : Nat} (hn : FailureLog.maxBuffered ≤ n + 39) :
    ¬ App.Forwards settings doc fresh h s (askedBy (n + 1)) := by
  intro hforwards
  have hr := askedBy_reaches n
  have hfailure : (App.answer settings doc fresh h s (askedBy (n + 1)) .getSession
      [("id", List.replicate (n + 1) 'a')]).isFailure = true := by
    rw [answer_askedBy]
    exact (refusal (n + 1)).isFailure_response
  have hmethod : (askedBy (n + 1)).method ≠ "HEAD" := (by decide : "GET" ≠ "HEAD")
  have hsmall := (App.body_response_eq_iff hr hmethod hfailure).1 (hforwards _ _ hr hfailure).2
  rw [answer_askedBy] at hsmall
  have hlarge := (refusal (n + 1)).length_message_le
  rw [length_refusal] at hlarge
  omega

theorem long_refusal_lost :
    ¬ App.Forwards .standard .null ⟨"k", "i"⟩ (Tables.handler Tables.calm) .empty (askedBy 65500) :=
  not_forwards_askedBy _ _ _ _ _ (by decide)

end Conversation

end LiveLesson.Http
