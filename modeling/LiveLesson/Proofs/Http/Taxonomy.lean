import LiveLesson.Proofs.Http.Protocol

/-!
Who is told to be at fault. A request without a proper payload is refused before anything is done. A
failure is the service's exactly if one of its calls failed fatally; the calls that come after a
session has been provisioned, or has not been, leave no trace in the response. A refused request
leaves the tables as they were.
-/

namespace LiveLesson

/-- The call tidies up once it is settled how a request is answered. -/
def Call.isAftermath : Call → Bool
  | .markProvisioned _ | .deleteSession _ => true
  | _ => false

def LiveSession.created (settings : PlaybackSettings) (key : String)
    (inserted : Except StoreError Session) (provisioned : Except MediaError Unit) :
    Except SessionError SessionView :=
  match inserted, provisioned with
  | .error e, _ => .error (.store e)
  | .ok _, .error source => .error (.provisioning key source)
  | .ok session, .ok _ => .ok (session.view settings)

variable {σ : Type}

theorem LiveSession.create_result (settings : PlaybackSettings) (course : CourseId) (key : String)
    (h : Handler σ) (s : σ) :
    let inserted := h (.insertPending course key) s
    let provisioned := h (.provision key) inserted.2
    ((create settings course key).run h s).result =
      created settings key inserted.1 provisioned.1 := by
  intro inserted provisioned
  rw [create,
    (Program.run_ask (show h (.insertPending course key) s = (inserted.1, inserted.2) from rfl)
      _).1]
  cases inserted.1 with
  | error e => rfl
  | ok session =>
    rw [(Program.run_ask (show h (.provision key) inserted.2 =
      (provisioned.1, provisioned.2) from rfl) _).1]
    cases provisioned.1 with
    | error source => exact (Program.run_bind h (rollBack session.id) _ _).1
    | ok u => exact (Program.run_bind h (recordProvisioning session.id key) _ _).1

namespace Http

/-- The body of a request is announced as JSON, is not too large and can be read, and what it says
keeps the rules. -/
structure Request.Conveys {α : Type} (record : Record α) (violations : α → List Violation)
    (r : Request) : Prop where
  announced : r.isJson = true
  small : r.body.length ≤ maxBodySize
  proper : ∃ p, record.wire.parse r.body = .ok p ∧ violations p = []

def Endpoint.Takes : Endpoint → Request → Prop
  | createSession, r => r.Conveys CreateSession.record CreateSession.violations
  | streamStatus, r => r.Conveys StatusCallback.record StatusCallback.violations
  | createQuestion, r => r.Conveys CreateQuestion.record CreateQuestion.violations
  | submitAnswer, r => r.Conveys SubmitAnswer.record SubmitAnswer.violations
  | _, _ => True

theorem payload_of_not_conveys {α : Type} {record : Record α} {violations : α → List Violation}
    {r : Request} (h : ¬ r.Conveys record violations) :
    ∃ e, payload record violations r = .error e := by
  cases hp : payload record violations r with
  | error e => exact ⟨e, rfl⟩
  | ok p =>
    obtain ⟨hread, hrules⟩ := of_payload_eq_ok hp
    obtain ⟨hannounced, hsmall, hparse⟩ := of_readBody_eq_ok hread
    exact absurd ⟨hannounced, hsmall, p, hparse, hrules⟩ h

theorem Endpoint.MayCall.isAftermath_eq_false {e : Endpoint} {c : Call} (hc : e.MayCall c)
    (he : e ≠ .createSession) : c.isAftermath = false := by
  cases c with
  | markProvisioned id => cases e <;> first | exact hc.elim | exact absurd rfl he
  | deleteSession id => cases e <;> first | exact hc.elim | exact absurd rfl he
  | _ => rfl

def RefusesOutright (p : Program Response) : Prop := ∃ e : ApiError, e.status = 400 ∧ p = e.answer

namespace Handlers

theorem orAnswer_refuses {α : Type} {record : Record α} {violations : α → List Violation}
    {r : Request} (h : ¬ r.Conveys record violations) (k : α → Program Response) :
    RefusesOutright (orAnswer (payload record violations r) k) := by
  obtain ⟨e, he⟩ := payload_of_not_conveys h
  exact ⟨e, status_of_payload_eq_error he, by rw [he, orAnswer]⟩

def told {α : Type} (f : α → Response) : Except ApiError α → Response
  | .ok a => f a
  | .error e => e.response

theorem result_orAnswer {α : Type} (r : Except ApiError α) (f : α → Response)
    (h : Handler σ) (s : σ) : ((orAnswer r fun a => pure (f a)).run h s).result = told f r := by
  cases r with
  | ok a => rfl
  | error e => exact (e.run_answer h s).1

theorem createSession_result {settings : PlaybackSettings} {key : String} {r : Request}
    {p : CreateSession} (hp : payload CreateSession.record CreateSession.violations r = .ok p)
    (h : Handler σ) (s : σ) :
    ((createSession settings key r).run h s).result = told (Handlers.created SessionView.record)
      (((LiveSession.create settings ⟨p.courseId⟩ key).run h s).result.mapError
        ApiError.ofSessionError) := by
  rw [createSession, hp]
  exact (Program.run_bind h _ _ s).1.trans (result_orAnswer _ _ h _)

/-- The response to the creation of a session depends on its first two calls alone. -/
theorem createSession_result_congr {settings : PlaybackSettings} {key : String} {r : Request}
    {h h' : Handler σ} (hsame : ∀ c, c.isAftermath = false → h c = h' c) (s : σ) :
    ((createSession settings key r).run h s).result =
      ((createSession settings key r).run h' s).result := by
  cases hp : payload CreateSession.record CreateSession.violations r with
  | error e =>
    rw [createSession, hp]
    exact (e.run_answer h s).1.trans (e.run_answer h' s).1.symm
  | ok p =>
    rw [createSession_result hp, createSession_result hp, LiveSession.create_result,
      LiveSession.create_result, hsame _ rfl, hsame _ rfl]

end Handlers

theorem FailureLog.exchanges_pass (requestId : String) (r : Request) (response : Response)
    (h : Handler σ) (s : σ) : (pass requestId r response).exchanges h s = [] := by
  unfold pass
  split
  · rfl
  · split <;> rfl

namespace App

variable {settings : Settings} {doc : Documentation} {v : Visit} {e : Endpoint}
  {captures : Captures}

theorem atEndpoint_refuses (settings : Settings) (doc : Documentation) (key : String) {r : Request}
    (captures : Captures) (h : ¬ e.Takes r) :
    RefusesOutright (atEndpoint settings doc key r captures e) := by
  cases e with
  | createSession => exact Handlers.orAnswer_refuses h _
  | streamStatus => exact Handlers.orAnswer_refuses h _
  | createQuestion => exact Handlers.orAnswer_refuses h _
  | submitAnswer => exact Handlers.orAnswer_refuses h _
  | _ => exact absurd trivial h

theorem atEndpoint_result_congr {key : String} {r : Request} {h h' : Handler σ}
    (hsame : ∀ c, c.isAftermath = false → h c = h' c) (s : σ) :
    ((atEndpoint settings doc key r captures e).run h s).result =
      ((atEndpoint settings doc key r captures e).run h' s).result := by
  by_cases hcreate : e = .createSession
  · subst hcreate
    exact Handlers.createSession_result_congr hsame s
  · have hrun := (atEndpoint_obeys settings doc key r captures e).run_congr
      (fun _ c hc => hsame c (hc.isAftermath_eq_false hcreate)) s
    rw [hrun]

variable (settings doc)

def exchanges (v : Visit) (t : Tables) : List Exchange :=
  (serve settings doc v.fresh v.request).exchanges (Tables.handler v.around) t

theorem calls_visit (v : Visit) (t : Tables) :
    (visit settings doc v t).calls = (exchanges settings doc v t).map Exchange.call :=
  Program.calls_run _ _ _

theorem exchanges_eq (hr : v.request.Reaches e captures) (t : Tables) : exchanges settings doc v t =
    (atEndpoint settings doc v.fresh.streamKey v.request captures e).exchanges
    (Tables.handler v.around) t := by
  simp only [exchanges, serve_eq (isPreflight_of_reaches hr), atRoute_of_reaches hr,
    Program.exchanges_bind, FailureLog.exchanges_pass, Program.exchanges_pure, List.append_nil]

end App

/-- How any request that reaches an endpoint is answered, whatever the tables hold and whatever
fails. Without a proper payload it is a bad request, and no call is made for it. The failure is the
service's exactly if one of the calls failed fatally. Calls that tidy up, failing or not, make no
difference to the response. A request that is refused as the client's mistake leaves the tables as
they were. -/
theorem failures_accounted (settings : Settings) (doc : Documentation) (v : Visit) (t : Tables)
    (e : Endpoint) (captures : Captures) (hr : v.request.Reaches e captures) :
    let trace := App.visit settings doc v t
    (¬ e.Takes v.request → trace.result.status = 400 ∧ trace.calls = [] ∧ trace.state = t) ∧
    (500 ≤ trace.result.status ∧ trace.result.status < 600 ↔
      ∃ x ∈ App.exchanges settings doc v t, x.isFatal = true) ∧
    (∀ around, (∀ c, c.isAftermath = false → around c = v.around c) →
      (App.visit settings doc { v with around := around } t).result = trace.result) ∧
    (400 ≤ trace.result.status ∧ trace.result.status < 500 → trace.state = t) := by
  intro trace
  obtain ⟨hstatus, _, hstate⟩ := App.visit_run settings doc hr t
  have hexchanges := App.exchanges_eq settings doc hr t
  have haccounts :=
    (App.atEndpoint_obeys settings doc v.fresh.streamKey v.request captures e).exchanges
    (Tables.handler v.around) t
  rw [List.nil_append, ← hexchanges] at haccounts
  refine ⟨fun htakes => ?_, ?_, fun around hsame => ?_, fun hrefused => ?_⟩
  · obtain ⟨error, hcode, hanswer⟩ :=
      App.atEndpoint_refuses settings doc v.fresh.streamKey captures htakes
    obtain ⟨hresult, hsame⟩ := error.run_answer (Tables.handler v.around) t
    rw [hanswer] at hstatus hstate hexchanges
    refine ⟨hstatus.trans ((congrArg Response.status hresult).trans hcode), ?_, hstate.trans hsame⟩
    exact (App.calls_visit settings doc v t).trans
      (by rw [hexchanges, error.exchanges_answer, List.map_nil])
  · rw [hstatus, haccounts.fatal, List.any_eq_true]
  · have hhandler : ∀ c, c.isAftermath = false →
        Tables.handler around c = Tables.handler v.around c := by
      intro c hc
      funext t
      simp only [Tables.handler, hsame c hc]
    rw [App.visit, (App.serve_run hr (Tables.handler around) t).1,
      App.atEndpoint_result_congr hhandler]
    exact (App.serve_run hr (Tables.handler v.around) t).1.symm
  · rw [hstatus] at hrefused
    have hidle := haccounts.idle hrefused.1 hrefused.2
    rw [hexchanges] at hidle
    exact hstate.trans (Tables.run_of_idle hidle)

/-- The media server refuses the stream, and the session that was stored for it cannot be
removed. -/
def strandedCreation : Visit :=
  { posted "/api/live/sessions" "[7]" with
    around := fun c => ⟨⟨0, 0⟩, if c.isAftermath then some .poolClosed else none,
      .error (.rejected 400 "no")⟩ }

/-- The client is told of the refusal, and would be told the same if the session had been
removed. -/
theorem strandedCreation_accounted :
    let response := (App.visit .standard .null strandedCreation .empty).result
    (500 ≤ response.status ∧ response.status < 600) ∧
      (App.visit .standard .null
        { strandedCreation with around := fun _ => ⟨⟨0, 0⟩, none, .error (.rejected 400 "no")⟩ }
        .empty).result =
        response := by
  have hr : strandedCreation.request.Reaches .createSession [] := ⟨by decide +kernel, by decide⟩
  obtain ⟨_, hfatal, haftermath, _⟩ :=
    failures_accounted .standard .null strandedCreation .empty _ _ hr
  have hprovision : (App.exchanges .standard .null strandedCreation .empty).any Exchange.isFatal =
      true := by
    decide +kernel
  refine ⟨hfatal.2 (List.any_eq_true.1 hprovision), haftermath _ fun c hc => ?_⟩
  simp [strandedCreation, hc]

/-- The call with which an endpoint begins, if the request is one that it makes a call for. -/
def Endpoint.firstCall? (key : String) (r : Request) (captures : Captures) :
    Endpoint → Option Call
  | createSession => do
    let p ← (payload CreateSession.record CreateSession.violations r).toOption
    pure (.insertPending ⟨p.courseId⟩ key)
  | getSession => do
    let n ← (oneNumber captures).toOption
    pure (.findSession ⟨n⟩)
  | startSession => do
    let n ← (oneNumber captures).toOption
    pure (.transitionById ⟨n⟩ .start)
  | endSession => do
    let n ← (oneNumber captures).toOption
    pure (.transitionById ⟨n⟩ .finish)
  | streamStatus => do
    let p ← (payload StatusCallback.record StatusCallback.violations r).toOption
    let key ← StreamPath.key? p.streamPath
    let event ← StreamEvent.read? p.status
    pure (.transitionByKey key event.transition)
  | createQuestion => do
    let p ← (payload CreateQuestion.record CreateQuestion.violations r).toOption
    pure (.createQuestion p.toNew)
  | pushQuestion => do
    let (course, id) ← (twoNumbers captures).toOption
    pure (.findQuestion ⟨course⟩ ⟨id⟩)
  | submitAnswer => do
    let p ← (payload SubmitAnswer.record SubmitAnswer.violations r).toOption
    pure (.insertAnswer p.toNew)
  | questionResult => do
    let n ← (oneNumber captures).toOption
    pure (.tally ⟨n⟩)
  | health => some .checkDatabase
  | document | viewer => none

theorem ApiError.next?_answer (e : ApiError) : e.answer.next? = none :=
  e.answer_induction (motive := fun p => p.next? = none) rfl fun _ _ _ ih => ih

namespace Handlers

variable {α ε : Type}

theorem orAnswer_asksOnce {r : Except ApiError α} {k : α → Program Response} {f : α → Option Call}
    (hk : ∀ a, (k a).AsksOnce (f a)) : (orAnswer r k).AsksOnce (r.toOption.bind f) := by
  cases r with
  | ok a => exact hk a
  | error e => exact e.next?_answer

theorem orAnswer_mapError_asksOnce {r : Except ε α} {g : ε → ApiError} {k : α → Program Response}
    {f : α → Option Call} (hk : ∀ a, (k a).AsksOnce (f a)) :
    (orAnswer (r.mapError g) k).AsksOnce (r.toOption.bind f) := by
  cases r with
  | ok a => exact hk a
  | error e => exact (g e).next?_answer

theorem createSession_next? (settings : PlaybackSettings) (key : String) (r : Request)
    (captures : Captures) :
    (createSession settings key r).next?.map Sigma.fst =
      Endpoint.createSession.firstCall? key r captures := by
  unfold createSession Endpoint.firstCall?
  cases payload CreateSession.record CreateSession.violations r with
  | ok p => rfl
  | error e => exact congrArg (Option.map Sigma.fst) e.next?_answer

theorem transition_asksOnce (t : Transition) (done : String) (captures : Captures) :
    (transition t done captures).AsksOnce
      ((oneNumber captures).toOption.bind fun n => some (.transitionById ⟨n⟩ t)) := by
  refine orAnswer_mapError_asksOnce fun n => ⟨_, rfl, fun o => ?_⟩
  rcases o with e | (_ | _)
  · exact (ApiError.ofSessionError (.store e)).next?_answer
  · exact (ApiError.ofSessionError (.invalidTransition ⟨n⟩ t.source)).next?_answer
  · rfl

theorem streamStatus_asksOnce (key : String) (r : Request) (captures : Captures) :
    (streamStatus r).AsksOnce (Endpoint.streamStatus.firstCall? key r captures) := by
  refine orAnswer_asksOnce fun p => ?_
  cases StreamPath.key? p.streamPath with
  | none => exact (ApiError.ofStreamPath p.streamPath).next?_answer
  | some key =>
    cases StreamEvent.read? p.status with
    | none => rfl
    | some event =>
      refine ⟨_, rfl, fun o => ?_⟩
      rcases o with e | (_ | _)
      · exact (ApiError.ofSessionError (.store e)).next?_answer
      · rfl
      · rfl

end Handlers

theorem App.atEndpoint_asksOnce (settings : Settings) (doc : Documentation) (key : String)
    (r : Request) (captures : Captures) {e : Endpoint} (he : e ≠ .createSession) :
    (atEndpoint settings doc key r captures e).AsksOnce (e.firstCall? key r captures) := by
  cases e with
  | createSession => exact absurd rfl he
  | getSession =>
    refine Handlers.orAnswer_mapError_asksOnce fun n => ⟨_, rfl, fun o => ?_⟩
    rcases o with e | (_ | s)
    · exact (ApiError.ofSessionError (.store e)).next?_answer
    · exact (ApiError.ofSessionError (.notFound ⟨n⟩)).next?_answer
    · rfl
  | startSession => exact Handlers.transition_asksOnce _ _ _
  | endSession => exact Handlers.transition_asksOnce _ _ _
  | streamStatus => exact Handlers.streamStatus_asksOnce _ _ _
  | createQuestion =>
    refine Handlers.orAnswer_asksOnce fun p => ⟨_, rfl, fun o => ?_⟩
    rcases o with e | question
    · exact (ApiError.ofStoreError e).next?_answer
    · rfl
  | pushQuestion =>
    refine Handlers.orAnswer_mapError_asksOnce fun n => ⟨_, rfl, fun o => ?_⟩
    rcases o with e | (_ | question)
    · exact (ApiError.ofStoreError e).next?_answer
    · exact Handlers.questionNotFound.next?_answer
    · rfl
  | submitAnswer =>
    refine Handlers.orAnswer_asksOnce fun p => ⟨_, rfl, fun o => ?_⟩
    rcases o with e | (_ | _)
    · exact (ApiError.ofStoreError e).next?_answer
    · exact Handlers.questionNotFound.next?_answer
    · rfl
  | questionResult =>
    refine Handlers.orAnswer_mapError_asksOnce fun n => ⟨_, rfl, fun o => ?_⟩
    rcases o with e | (_ | t)
    · exact (ApiError.ofStoreError e).next?_answer
    · exact Handlers.questionNotFound.next?_answer
    · rfl
  | health =>
    refine ⟨_, rfl, fun o => ?_⟩
    rcases o with e | u
    · exact (ApiError.unavailable "Database unavailable").next?_answer
    · rfl
  | document => rfl
  | viewer => rfl

/-- The calls that are made for a request. What it asks for is the first of them and, unless a
session is created, the only one. -/
theorem calls_visit_of_reaches (settings : Settings) (doc : Documentation) (v : Visit) (t : Tables)
    (e : Endpoint) (captures : Captures) (hr : v.request.Reaches e captures) :
    let first? := e.firstCall? v.fresh.streamKey v.request captures
    let calls := (App.visit settings doc v t).calls
    calls.head? = first? ∧ (e ≠ .createSession → calls = first?.toList) := by
  intro first? calls
  have hcalls : calls = ((App.atEndpoint settings doc v.fresh.streamKey v.request captures
      e).exchanges (Tables.handler v.around) t).map Exchange.call := by
    rw [← App.exchanges_eq settings doc hr]
    exact App.calls_visit settings doc v t
  rw [hcalls, Program.head?_calls]
  by_cases he : e = .createSession
  · subst he
    exact ⟨Handlers.createSession_next? _ _ _ captures, fun hne => absurd rfl hne⟩
  · have honce := App.atEndpoint_asksOnce settings doc v.fresh.streamKey v.request captures he
    have hlist := honce.calls (Tables.handler v.around) t
    exact ⟨by rw [← Program.head?_calls, hlist, Option.head?_toList], fun _ => hlist⟩

end Http

end LiveLesson
