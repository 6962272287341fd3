import LiveLesson.Proofs.Http.Serve
import LiveLesson.Proofs.Service.Concealment
import LiveLesson.Proofs.Service.Logs

/-!
Which calls each endpoint makes, and how its answer accounts for them. An answer with a failure
status tells one of the failures of the service. It reports a failure of the service itself exactly
if a call failed for which the service is to blame, and it reports a mistake of the client only if
no call changed anything. All that is said of the endpoints comes from one relation between two runs
of each of them.
-/

namespace LiveLesson.Http

def Response.IsTold (response : Response) : Prop :=
  response.isFailure = true → ∃ e : ApiError, response = e.response

def Response.values (response : Response) (name : String) : List String :=
  (response.headers.filter fun header => header.1 == name).map Prod.snd

/-- The response admits no page of another origin as it stands. -/
def Response.IsUnmarked (response : Response) : Prop := response.values Cors.headerName = []

theorem Response.le_status_of_isFailure {response : Response} (h : response.isFailure = true) :
    400 ≤ response.status := by
  simp only [isFailure, Bool.and_eq_true, decide_eq_true_eq] at h
  exact h.1

theorem ApiError.isFailure_response (e : ApiError) :
    e.response.isFailure = true := by cases e <;> rfl

section Answer

variable {σ : Type} (e : ApiError) (h : Handler σ) (s : σ)

theorem ApiError.run_answer :
    (e.answer.run h s).result = e.response ∧ (e.answer.run h s).state = s :=
  e.answer_induction (motive := fun p => (p.run h s).result = e.response ∧
    (p.run h s).state = s) ⟨rfl, rfl⟩
    fun _ _ _ ih => ih

theorem ApiError.isFailure_answer : (e.answer.run h s).result.isFailure = true :=
  (e.run_answer h s).1 ▸ e.isFailure_response

theorem ApiError.exchanges_answer : e.answer.exchanges h s = [] :=
  e.answer_induction (motive := fun p => p.exchanges h s = []) rfl fun _ _ _ ih => ih

end Answer

/-- The calls that an endpoint may make. -/
def Endpoint.MayCall : Endpoint → Call → Prop
  | createSession, .insertPending .. | createSession, .provision _ | createSession,
    .markProvisioned _
  | createSession, .deleteSession _ => True
  | getSession, .findSession _ => True
  | startSession, .transitionById .. | endSession, .transitionById .. => True
  | streamStatus, .transitionByKey .. => True
  | createQuestion, .createQuestion _ => True
  | pushQuestion, .findQuestion .. => True
  | submitAnswer, .insertAnswer _ => True
  | questionResult, .tally _ => True
  | health, .checkDatabase => True
  | _, _ => False

/-- A response fits the exchanges that it was made for. -/
structure Accounts (xs : List Exchange) (response : Response) : Prop where
  told : response.IsTold
  fatal : 500 ≤ response.status ∧ response.status < 600 ↔ xs.any Exchange.isFatal = true
  idle : 400 ≤ response.status → response.status < 500 → xs.all Exchange.isIdle = true
  unmarked : response.IsUnmarked

variable {xs : List Exchange}

theorem accounts_success {status : Nat} (hstatus : status < 400) (j : Json)
    (hxs : xs.any Exchange.isFatal = false) :
    Accounts xs (Response.json status j) where
  told h := absurd (Response.le_status_of_isFailure h) (Nat.not_le.2 hstatus)
  fatal := iff_of_false (fun h => Nat.not_le.2 hstatus (Nat.le_trans (by decide) h.1))
    (by simp [hxs])
  idle h := absurd h (Nat.not_le.2 hstatus)
  unmarked := rfl

namespace ApiError

theorem status_lt (e : ApiError) : e.status < 600 := by cases e <;> simp [status]

theorem accounts_fatal {e : ApiError} (hstatus : 500 ≤ e.status)
    (hxs : xs.any Exchange.isFatal = true) :
    Accounts xs e.response where
  told _ := ⟨e, rfl⟩
  fatal := iff_of_true ⟨hstatus, e.status_lt⟩ hxs
  idle _ h := absurd h (Nat.not_lt.2 hstatus)
  unmarked := rfl

theorem accounts_refusal {e : ApiError} (hstatus : e.status < 500)
    (hxs : xs.any Exchange.isFatal = false) (hidle : xs.all Exchange.isIdle = true) :
    Accounts xs e.response where
  told _ := ⟨e, rfl⟩
  fatal := iff_of_false (fun h => absurd hstatus (Nat.not_lt.2 h.1)) (by simp [hxs])
  idle _ _ := hidle
  unmarked := rfl

/-- A failed call on the quiz is the client's mistake if a row was missing, and the service's
otherwise. -/
theorem accounts_storeError (e : StoreError) {c : Call} {failure : c.Failure}
    (hfatal : c.isFatal failure = !e.isMissingRow) :
    Accounts [⟨c, .error failure⟩] (ofStoreError e).response := by
  have hxs : ([⟨c, .error failure⟩] : List Exchange).any Exchange.isFatal = !e.isMissingRow := by
    simpa [Exchange.isFatal] using hfatal
  have hidle : ([⟨c, .error failure⟩] : List Exchange).all Exchange.isIdle = true := by
    cases c <;> rfl
  cases e with
  | rowNotFound => exact accounts_refusal (by decide) hxs hidle
  | _ => exact accounts_fatal (Nat.le_refl 500) hxs

end ApiError

theorem of_readBody_eq_ok {α : Type} {w : Wire α} {r : Request} {p : α} (h : readBody w r = .ok p) :
    r.isJson = true ∧ r.body.length ≤ maxBodySize ∧
      w.parse r.body = .ok p := by
  unfold readBody at h
  split at h
  · cases h
  · next hjson =>
    split at h
    · cases h
    · next hsize =>
      refine ⟨by simpa using hjson, Nat.le_of_not_lt hsize, ?_⟩
      cases hparse : w.parse r.body with
      | error f =>
        rw [hparse] at h
        cases h
      | ok p' =>
        rw [hparse] at h
        cases h
        rfl

theorem of_payload_eq_ok {α : Type} {record : Record α} {violations : α → List Violation}
    {r : Request} {p : α} (h : payload record violations r = .ok p) :
    readBody record.wire r = .ok p ∧ violations p = [] := by
  unfold payload at h
  split at h
  · cases h
  · next p' hread =>
    split at h
    · next hrules =>
      cases h
      exact ⟨hread, hrules⟩
    · cases h

theorem status_of_payload_eq_error {α : Type} {record : Record α} {violations : α → List Violation}
    {r : Request} {e : ApiError} (h : payload record violations r = .error e) : e.status = 400 := by
  unfold payload at h
  split at h
  · cases h
    rfl
  · split at h
    · cases h
    · cases h
      rfl

def ApiError.Blurred (e e' : ApiError) : Prop := e'.response = e.response

/-- Of a store error only that a row was missing is told. -/
theorem ApiError.response_ofStoreError (e : StoreError) : (ofStoreError e).response =
    if e.isMissingRow then (notFound "Resource not found").response
      else (internal "" []).response := by
  cases e <;> rfl

theorem ApiError.blurred_ofStoreError {e e' : StoreError}
    (h : (!e'.isMissingRow) = !e.isMissingRow) : (ofStoreError e).Blurred (ofStoreError e') := by
  rw [Blurred, response_ofStoreError, response_ofStoreError, Bool.not_inj h]

theorem ApiError.isAnonymous {e : ApiError} {event : LogEvent} (h : event ∈ e.events) :
    event.IsAnonymous := by
  cases e <;> simp_all [events, LogEvent.IsAnonymous]

/-- Two runs that go on after some exchanges, and whose calls fail at the same points, though not in
the same way. Both make the calls that they may make, write no line under a name, and end with one
response, which fits the exchanges of the first. -/
inductive InStep (may : Call → Prop) : List Exchange → Program Response → Program Response → Prop
  | done {xs response} : Accounts xs response → InStep may xs (.done response) (.done response)
  | logLeft {xs e p q} : e.IsAnonymous → InStep may xs p q → InStep may xs (.log e p) q
  | logRight {xs e p q} : InStep may xs p q → InStep may xs p (.log e q)
  | call {xs c k k'} : may c →
    (∀ o o', c.Blurred o o' → InStep may (xs ++ [⟨c, o⟩]) (k o) (k' o')) →
    InStep may xs (.call c k) (.call c k')

namespace InStep

open Handlers

variable {may : Call → Prop} {p q : Program Response}

theorem log {e e' : LogEvent} (he : e.IsAnonymous) (h : InStep may xs p q) :
    InStep may xs (.log e p) (.log e' q) := .logLeft he (.logRight h)

theorem answer {e e' : ApiError} (h : e.Blurred e') (haccounts : Accounts xs e.response) :
    InStep may xs e.answer e'.answer := by
  have hright : InStep may xs (.done e.response) e'.answer :=
    e'.answer_induction (motive := InStep may xs (.done e.response))
      (by rw [h]; exact .done haccounts) fun _ _ _ ih => .logRight ih
  exact e.answer_induction (motive := fun p => InStep may xs p e'.answer) hright
    fun _ he _ ih => .logLeft (e.isAnonymous he) ih

theorem sessionStoreError (e e' : StoreError) (hfatal : xs.any Exchange.isFatal = true) :
    InStep may xs (ApiError.ofSessionError (.store e)).answer
      (ApiError.ofSessionError (.store e')).answer :=
  answer rfl (ApiError.accounts_fatal (Nat.le_refl 500) hfatal)

theorem orAnswer {α : Type} {r : Except ApiError α} {k k' : α → Program Response}
    (herror : ∀ e, r = .error e → Accounts xs e.response) (hk : ∀ a, InStep may xs (k a) (k' a)) :
    InStep may xs (orAnswer r k) (orAnswer r k') := by
  cases r with
  | ok a => exact hk a
  | error e => exact answer rfl (herror e rfl)

theorem obeys (h : InStep may xs p q) : p.Obeys (fun _ => may) Accounts xs := by
  induction h with
  | done haccounts => exact haccounts
  | logLeft _ _ ih | logRight _ ih => exact ih
  | @call xs c k k' hmay _ ih => exact ⟨hmay, fun o => ih o o (c.blurred_refl o)⟩

theorem logs (h : InStep may xs p q) : p.Logs LogEvent.IsAnonymous := by
  induction h with
  | done _ => trivial
  | logLeft he _ ih => exact ⟨he, ih⟩
  | logRight _ ih => exact ih
  | @call xs c k k' _ _ ih => exact fun o => ih o o (c.blurred_refl o)

theorem akin (h : InStep may xs p q) : Program.Akin p q := by
  induction h with
  | done _ => exact .done _
  | logLeft _ _ ih => exact .logLeft _ ih
  | logRight _ ih => exact .logRight _ ih
  | call _ _ ih => exact .call ih

end InStep

theorem accounts_nil {e : ApiError} (hstatus : e.status = 400) : Accounts [] e.response :=
  ApiError.accounts_refusal (by rw [hstatus]; decide) rfl rfl

theorem accounts_of_mapError {α ε : Type} {r : Except ε α} {f : ε → ApiError}
    (hstatus : ∀ e, (f e).status = 400) (e : ApiError) (h : r.mapError f = .error e) :
    Accounts [] e.response := by
  cases r with
  | ok a => cases h
  | error e' =>
    cases h
    exact accounts_nil (hstatus e')

namespace Handlers

open Program ApiError

theorem createSession_inStep (settings : PlaybackSettings) (key : String) (r : Request) :
    InStep Endpoint.createSession.MayCall [] (createSession settings key r)
      (createSession settings key r) := by
  refine .orAnswer (fun e he => accounts_nil (status_of_payload_eq_error he)) fun p => ?_
  refine .call trivial fun _ _ h => ?_
  cases h with
  | @error e e' _ =>
    exact .sessionStoreError e e' rfl
  | ok s =>
    refine .call trivial fun _ _ h => ?_
    cases h with
    | @error e e' _ =>
      refine .log rfl (.call trivial fun o _ h => ?_)
      have hanswer : InStep Endpoint.createSession.MayCall
          [⟨.insertPending ⟨p.courseId⟩ key, .ok s⟩, ⟨.provision key, .error e⟩,
            ⟨.deleteSession s.id, o⟩]
          (ofSessionError (.provisioning key e)).answer
          (ofSessionError (.provisioning key e')).answer :=
        .answer rfl (accounts_fatal (Nat.le_refl 500) rfl)
      cases h with
      | error _ => exact .log rfl hanswer
      | ok b => cases b <;> exact .log rfl hanswer
    | ok u =>
      refine .call trivial fun _ _ h => ?_
      cases h with
      | error _ => exact .log rfl (.log rfl (.done (accounts_success (by decide) _ rfl)))
      | ok b => exact .log rfl (.done (accounts_success (by decide) _ rfl))

theorem getSession_inStep (settings : PlaybackSettings) (captures : Captures) :
    InStep Endpoint.getSession.MayCall [] (getSession settings captures)
      (getSession settings captures) := by
  refine .orAnswer (accounts_of_mapError fun _ => rfl) fun n => ?_
  refine .call trivial fun _ _ h => ?_
  cases h with
  | @error e e' _ =>
    exact .sessionStoreError e e' rfl
  | ok found =>
    cases found with
    | none =>
      exact .answer (e := .ofSessionError (.notFound ⟨n⟩)) rfl
        (accounts_refusal (show (404 : Nat) < 500 by decide) rfl rfl)
    | some s => exact .done (accounts_success (by decide) _ rfl)

theorem transition_inStep (t : Transition) (done : String) (captures : Captures)
    {may : Call → Prop} (hmay : ∀ id, may (.transitionById id t)) :
    InStep may [] (transition t done captures) (transition t done captures) := by
  refine .orAnswer (accounts_of_mapError fun _ => rfl) fun n => ?_
  refine .call (hmay _) fun _ _ h => ?_
  cases h with
  | @error e e' _ =>
    exact .sessionStoreError e e' rfl
  | ok b =>
    cases b with
    | false =>
      exact .answer (e := .invalidTransition t.source) rfl
        (accounts_refusal (show (400 : Nat) < 500 by decide) rfl rfl)
    | true => exact .log rfl (.done (accounts_success (by decide) _ rfl))

theorem streamStatus_inStep (r : Request) :
    InStep Endpoint.streamStatus.MayCall [] (streamStatus r) (streamStatus r) := by
  refine .orAnswer (fun e he => accounts_nil (status_of_payload_eq_error he)) fun p => ?_
  split
  · exact .answer rfl (accounts_nil rfl)
  · split
    · exact .log rfl (.done (accounts_success (by decide) _ rfl))
    · refine .call trivial fun _ _ h => ?_
      cases h with
      | @error e e' _ =>
        exact .sessionStoreError e e' rfl
      | ok b => cases b <;> exact .log rfl (.done (accounts_success (by decide) _ rfl))

theorem createQuestion_inStep (r : Request) :
    InStep Endpoint.createQuestion.MayCall [] (createQuestion r) (createQuestion r) := by
  refine .orAnswer (fun e he => accounts_nil (status_of_payload_eq_error he)) fun p => ?_
  refine .call trivial fun _ _ h => ?_
  cases h with
  | error h => exact .answer (blurred_ofStoreError h) (accounts_storeError _ rfl)
  | ok question => exact .log rfl (.done (accounts_success (by decide) _ rfl))

theorem pushQuestion_inStep (captures : Captures) :
    InStep Endpoint.pushQuestion.MayCall [] (pushQuestion captures) (pushQuestion captures) := by
  refine .orAnswer (accounts_of_mapError fun _ => rfl) fun _ => ?_
  refine .call trivial fun _ _ h => ?_
  cases h with
  | error h => exact .answer (blurred_ofStoreError h) (accounts_storeError _ rfl)
  | ok found =>
    cases found with
    | none => exact .answer (e := questionNotFound) rfl (accounts_refusal (by decide) rfl rfl)
    | some question => exact .done (accounts_success (by decide) _ rfl)

theorem submitAnswer_inStep (r : Request) :
    InStep Endpoint.submitAnswer.MayCall [] (submitAnswer r) (submitAnswer r) := by
  refine .orAnswer (fun e he => accounts_nil (status_of_payload_eq_error he)) fun p => ?_
  refine .call trivial fun _ _ h => ?_
  cases h with
  | error h => exact .answer (blurred_ofStoreError h) (accounts_storeError _ rfl)
  | ok known =>
    cases known with
    | false => exact .answer (e := questionNotFound) rfl (accounts_refusal (by decide) rfl rfl)
    | true => exact .log rfl (.done (accounts_success (by decide) _ rfl))

theorem questionResult_inStep (captures : Captures) :
    InStep Endpoint.questionResult.MayCall [] (questionResult captures)
      (questionResult captures) := by
  refine .orAnswer (accounts_of_mapError fun _ => rfl) fun _ => ?_
  refine .call trivial fun _ _ h => ?_
  cases h with
  | error h => exact .answer (blurred_ofStoreError h) (accounts_storeError _ rfl)
  | ok found =>
    cases found with
    | none => exact .answer (e := questionNotFound) rfl (accounts_refusal (by decide) rfl rfl)
    | some tally => exact .done (accounts_success (by decide) _ rfl)

theorem health_inStep : InStep Endpoint.health.MayCall [] health health := by
  refine .call trivial fun _ _ h => ?_
  cases h with
  | @error e e' _ =>
    exact .log rfl (.answer (e := .unavailable "Database unavailable") rfl
      (accounts_fatal (by decide) rfl))
  | ok u => exact .done (accounts_success (by decide) _ rfl)

end Handlers

namespace App

variable (settings : Settings) (doc : Documentation) (key : String) (r : Request)
  (captures : Captures)
  (e : Endpoint)

theorem atEndpoint_inStep : InStep e.MayCall [] (atEndpoint settings doc key r captures e)
    (atEndpoint settings doc key r captures e) := by
  cases e with
  | createSession => exact Handlers.createSession_inStep _ _ _
  | getSession => exact Handlers.getSession_inStep _ _
  | startSession => exact Handlers.transition_inStep _ _ _ fun _ => trivial
  | endSession => exact Handlers.transition_inStep _ _ _ fun _ => trivial
  | streamStatus => exact Handlers.streamStatus_inStep _
  | createQuestion => exact Handlers.createQuestion_inStep _
  | pushQuestion => exact Handlers.pushQuestion_inStep _
  | submitAnswer => exact Handlers.submitAnswer_inStep _
  | questionResult => exact Handlers.questionResult_inStep _
  | health => exact Handlers.health_inStep
  | document => exact .done (accounts_success (by decide) _ rfl)
  | viewer => exact .done ⟨fun h => absurd h (by decide), by decide, by decide, rfl⟩

/-- Every endpoint makes no calls but its own, and answers as their outcomes require. -/
theorem atEndpoint_obeys :
    (atEndpoint settings doc key r captures e).Obeys (fun _ => e.MayCall) Accounts [] :=
  (atEndpoint_inStep settings doc key r captures e).obeys

end App

end LiveLesson.Http
