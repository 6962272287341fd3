import LiveLesson.Http.Conversation

/-!
What a request meets on its way to its endpoint and back. A request that reaches an endpoint is
answered by it; on the way out the body of a failure may be lost in the log, the body of an answer
to `HEAD` is dropped, and headers are added. A request that reaches no endpoint changes nothing.
-/

namespace LiveLesson

def Tables.calm : Call → Tables.Surroundings := fun _ => ⟨⟨0, 0⟩, none, .ok ()⟩

namespace Program

variable {α β σ : Type}

@[simp] theorem run_pure (h : Handler σ) (a : α) (s : σ) :
    (pure a : Program α).run h s = ⟨a, s, [], []⟩ := rfl

theorem run_bind (h : Handler σ) (p : Program α) (f : α → Program β) (s : σ) :
    ((p >>= f).run h s).result = ((f (p.run h s).result).run h (p.run h s).state).result ∧
      ((p >>= f).run h s).state = ((f (p.run h s).result).run h (p.run h s).state).state := by
  induction p generalizing s with
  | done a => exact ⟨rfl, rfl⟩
  | log e p ih => exact ih s
  | call c k ih => exact ih (h c s).1 (h c s).2

theorem run_ask {h : Handler σ} {c : Call} {o : c.Outcome} {s s' : σ} (hcall : h c s = (o, s'))
    (k : c.Outcome → Program α) : ((ask c >>= k).run h s).result = ((k o).run h s').result ∧
      ((ask c >>= k).run h s).state = ((k o).run h s').state := by
  have hask : (ask c >>= k) = .call c k := rfl
  rw [hask, Program.run, hcall]
  exact ⟨rfl, rfl⟩

end Program

namespace Http

/-- A failure is told after some lines of the log, and nothing else is done. -/
theorem ApiError.answer_induction {motive : Program Response → Prop} (e : ApiError)
    (done : motive (.done e.response))
    (log : ∀ event ∈ e.events, ∀ p, motive p → motive (.log event p)) : motive e.answer := by
  have hlogged : ∀ events, (∀ event ∈ events, event ∈ e.events) → motive (e.logged events) := by
    intro events
    induction events with
    | nil => exact fun _ => done
    | cons event events ih =>
      intro hevents
      obtain ⟨hevent, hrest⟩ := List.forall_mem_cons.1 hevents
      exact log event hevent _ (ih hrest)
  exact hlogged e.events fun _ h => h

def posted (target body : String) : Visit :=
  ⟨⟨"POST", target, [("content-type", "application/json")],
    body.toList.map fun c => c.toNat.toUInt8⟩, ⟨"k", "i"⟩, Tables.calm⟩

/-- The endpoint of the request's path answers its method. -/
structure Request.Reaches (r : Request) (e : Endpoint) (captures : Captures) : Prop where
  route : route? r.target = some (e, captures)
  method : e.accepts r.method = true

def Request.endpoint? (r : Request) : Option Endpoint :=
  match route? r.target with
  | some (e, _) => if e.accepts r.method then some e else none
  | none => none

theorem Request.endpoint?_eq_some_iff {r : Request} {e : Endpoint} :
    r.endpoint? = some e ↔ ∃ captures, r.Reaches e captures := by
  unfold endpoint?
  constructor
  · intro h
    cases hroute : route? r.target with
    | none => simp [hroute] at h
    | some found =>
      obtain ⟨e', captures⟩ := found
      obtain ⟨hmethod, rfl⟩ : e'.accepts r.method = true ∧ e' = e := by simpa [hroute] using h
      exact ⟨captures, hroute, hmethod⟩
  · rintro ⟨captures, hr⟩
    rw [hr.route]
    exact if_pos hr.method

theorem Request.Reaches.endpoint? {r : Request} {e : Endpoint} {captures : Captures}
    (hr : r.Reaches e captures) : r.endpoint? = some e :=
  Request.endpoint?_eq_some_iff.2 ⟨captures, hr⟩

theorem Request.Reaches.method_ne_head {r : Request} {e : Endpoint} {captures : Captures}
    (hr : r.Reaches e captures) (hpost : e.isPost = true) : r.method ≠ "HEAD" := by
  have hmethod := hr.method
  rw [Endpoint.accepts, if_pos hpost, beq_iff_eq] at hmethod
  rw [hmethod]
  decide

def FailureLog.passed (response : Response) : Response :=
  if response.isFailure ∧ maxBuffered < response.body.utf8ByteSize then { response with body := "" }
    else response

theorem FailureLog.status_passed (response : Response) :
    (passed response).status = response.status := by
  unfold passed
  split <;> rfl

theorem FailureLog.body_passed {response : Response} (hfailure : response.isFailure = true) :
    (passed response).body = if maxBuffered < response.body.utf8ByteSize then ""
      else response.body := by
  unfold passed
  by_cases hlarge : maxBuffered < response.body.utf8ByteSize
  · rw [if_pos ⟨hfailure, hlarge⟩, if_pos hlarge]
  · rw [if_neg fun h => hlarge h.2, if_neg hlarge]

theorem FailureLog.passed_of_success {response : Response} (hsuccess : response.isFailure = false) :
    passed response = response := by
  rw [passed, if_neg fun h => absurd h.1 (by simp [hsuccess])]

theorem FailureLog.run_pass {σ : Type} (h : Handler σ) (requestId : String) (r : Request)
    (response : Response) (s : σ) : ((pass requestId r response).run h s).result = passed response ∧
      ((pass requestId r response).run h s).state = s := by
  unfold pass passed
  by_cases hfailure : response.isFailure = true
  · by_cases hsize : response.body.utf8ByteSize ≤ maxBuffered
    · simp [hfailure, hsize, Nat.not_lt.2 hsize, Program.run]
    · simp [hfailure, hsize, Nat.lt_of_not_le hsize, Program.run]
  · simp [hfailure, Program.run, pure]

@[simp] theorem Response.status_setHeader (response : Response) (name value : String) :
    (response.setHeader name value).status = response.status := rfl

@[simp] theorem Response.body_setHeader (response : Response) (name value : String) :
    (response.setHeader name value).body = response.body := rfl

@[simp] theorem Cors.status_mark (configured : List String) (r : Request) (response : Response) :
    (mark configured r response).status = response.status := by
  unfold mark markUnder
  cases (allowOrigin configured).value? (r.header? "origin") <;> rfl

@[simp] theorem Cors.body_mark (configured : List String) (r : Request) (response : Response) :
    (mark configured r response).body = response.body := by
  unfold mark markUnder
  cases (allowOrigin configured).value? (r.header? "origin") <;> rfl

namespace App

def finish (settings : Settings) (fresh : Fresh) (r : Request) (response : Response) : Response :=
  (Cors.mark settings.server.corsAllowOrigins r (withoutBody r response)).setHeader
    RequestId.headerName
    (RequestId.choose fresh.requestId r)

variable {σ : Type} {settings : Settings} {doc : Documentation} {fresh : Fresh} {r : Request}
  {e : Endpoint}
  {captures : Captures}

theorem status_finish (response : Response) :
    (finish settings fresh r response).status = response.status := by
  simp only [finish, Response.status_setHeader, Cors.status_mark, withoutBody]
  split <;> rfl

theorem body_finish (response : Response) :
    (finish settings fresh r response).body = if r.method = "HEAD" then "" else response.body := by
  simp only [finish, Response.body_setHeader, Cors.body_mark, withoutBody, beq_iff_eq]
  split <;> rfl

theorem isPreflight_of_reaches (hr : r.Reaches e captures) : Cors.isPreflight r = false := by
  cases hpreflight : Cors.isPreflight r with
  | false => rfl
  | true =>
    have hmethod := hr.method
    have hoptions : r.method = "OPTIONS" := by simpa [Cors.isPreflight] using hpreflight
    rw [hoptions] at hmethod
    cases e <;> exact absurd hmethod (by decide)

theorem serve_eq (hpreflight : Cors.isPreflight r = false) :
    serve settings doc fresh r = (do
      let response ← atRoute settings doc fresh.streamKey r (route? r.target)
      let response ← FailureLog.pass (RequestId.choose fresh.requestId r) r response
      pure (withAllow r (route? r.target) (withoutBody r response))) >>= fun response =>
        pure ((Cors.mark settings.server.corsAllowOrigins r response).setHeader RequestId.headerName
          (RequestId.choose fresh.requestId r)) := by
  simp [serve, serveUnder, inner, hpreflight, Cors.mark]

theorem atRoute_of_reaches (hr : r.Reaches e captures) (key : String) :
    atRoute settings doc key r (route? r.target) = atEndpoint settings doc key r captures e := by
  rw [hr.route, atRoute, if_pos hr.method]

theorem serve_run (hr : r.Reaches e captures) (h : Handler σ) (s : σ) :
    let answered := (atEndpoint settings doc fresh.streamKey r captures e).run h s
    ((serve settings doc fresh r).run h s).result =
      finish settings fresh r (FailureLog.passed answered.result) ∧
      ((serve settings doc fresh r).run h s).state = answered.state := by
  have hallow : ∀ response, withAllow r (route? r.target) response = response := by
    intro response
    rw [hr.route, withAllow, if_pos hr.method]
  simp only [serve_eq (isPreflight_of_reaches hr), atRoute_of_reaches hr, hallow, Program.run_bind,
    FailureLog.run_pass, Program.run_pure, finish, and_self]

theorem serve_run_of_not_reaches (hr : ∀ e captures, ¬ r.Reaches e captures)
    (h : Handler σ) (s : σ) : ((serve settings doc fresh r).run h s).state = s := by
  cases hpreflight : Cors.isPreflight r with
  | true => simp [serve, serveUnder, inner, hpreflight, Program.run_bind]
  | false =>
    have hroute : ((atRoute settings doc fresh.streamKey r (route? r.target)).run h s).state =
        s := by
      cases hfound : route? r.target with
      | none => rfl
      | some found =>
        obtain ⟨e, captures⟩ := found
        have hmethod : ¬ e.accepts r.method = true := fun hmethod => hr e captures ⟨hfound, hmethod⟩
        rw [atRoute, if_neg hmethod]
        rfl
    simp only [serve_eq hpreflight, Program.run_bind, FailureLog.run_pass, Program.run_pure, hroute]

variable (settings doc)

theorem visit_run {v : Visit} {e : Endpoint} {captures : Captures}
    (hr : v.request.Reaches e captures) (t : Tables) :
    let trace := (atEndpoint settings doc v.fresh.streamKey v.request captures e).run
      (Tables.handler v.around) t
    (visit settings doc v t).result.status = trace.result.status ∧
      (trace.result.isFailure = false → v.request.method ≠ "HEAD" →
        (visit settings doc v t).result.body = trace.result.body) ∧
      (visit settings doc v t).state = trace.state := by
  intro trace
  rw [visit, (serve_run hr (Tables.handler v.around) t).1,
    (serve_run hr (Tables.handler v.around) t).2]
  refine ⟨by rw [status_finish, FailureLog.status_passed], fun hsuccess hmethod => ?_, rfl⟩
  rw [body_finish, if_neg hmethod, FailureLog.passed_of_success hsuccess]

end App

end Http

end LiveLesson
