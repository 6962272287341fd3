import LiveLesson.Proofs.Http.Taxonomy

/-!
Refused changes of status. A path that names no session in the status which a transition leaves is
refused in one way, whether it names no session at all, a session in another status, or nothing that
could be an identifier.
-/

namespace LiveLesson

def Transition.endpoint : Transition → Http.Endpoint
  | .start => .startSession
  | .finish => .endSession

namespace SessionTable

variable {t : SessionTable} {tr : Transition}

theorem transitionById_of_mem {s : Session} (hs : s ∈ t.rows) (hstatus : s.status = tr.source)
    (now : Timestamp) : (t.transitionById s.id tr now).1 = true := by
  unfold transitionById transition
  cases hmoved : updateFirst (fun x => x.id == s.id && x.status == tr.source)
    (fun x => x.after tr now) t.rows with
  | none =>
    have hnot := updateFirst_eq_none.1 hmoved s hs
    simp [hstatus] at hnot
  | some rows => rfl

theorem transitionById_of_forall_not {id : SessionId}
    (h : ∀ s ∈ t.rows, s.id = id → s.status ≠ tr.source) (now : Timestamp) :
    t.transitionById id tr now = (false, t) := by
  have hnone : ∀ s ∈ t.rows, (s.id == id && s.status == tr.source) = false := by
    intro s hs
    by_cases hid : s.id = id
    · simp [h s hs hid]
    · simp [hid]
  rw [transitionById, transition, updateFirst_eq_none.2 hnone]
  rfl

end SessionTable

namespace Http

/-- What the path took is read as the identifier of a session in the status that the transition
leaves. The number may be percent-encoded and may have a sign or zeros in front; it names what it is
read as. -/
def NamesSource (t : Tables) (tr : Transition) (captures : Captures) : Prop :=
  ∃ s ∈ t.sessions.rows, oneNumber captures = .ok s.id.value ∧ s.status = tr.source

instance (t : Tables) (tr : Transition) (captures : Captures) :
    Decidable (NamesSource t tr captures) :=
  inferInstanceAs (Decidable (∃ s ∈ t.sessions.rows, oneNumber captures = .ok s.id.value ∧
    s.status = tr.source))

/-- The store does not fail when it is asked for the transition, if it is asked at all. -/
def Visit.MeetsStore (v : Visit) (tr : Transition) (captures : Captures) : Prop :=
  ∀ n, oneNumber captures = .ok n → (v.around (.transitionById ⟨n⟩ tr)).fault = none

def Response.headersBesides (response : Response) (name : String) : Headers :=
  response.headers.filter fun h => h.1 != name

@[simp] theorem Response.headersBesides_setHeader (response : Response) (name value : String) :
    (response.setHeader name value).headersBesides name = response.headersBesides name := by
  simp [headersBesides, setHeader]

variable {v v' : Visit} {t : Tables} {tr : Transition} {captures captures' : Captures}

namespace Handlers

theorem transition_granted (hstore : v.MeetsStore tr captures) (hnames : NamesSource t tr captures)
    (done : String) :
    ((transition tr done captures).run (Tables.handler v.around) t).result = acknowledge done := by
  obtain ⟨s, hs, hnumber, hstatus⟩ := hnames
  have hcall := Tables.handler_of_no_fault (c := .transitionById s.id tr) (hstore _ hnumber) t
  have hmoved :=
    SessionTable.transitionById_of_mem hs hstatus (v.around (.transitionById s.id tr)).now
  simp only [Tables.perform, Tables.withSessions, hmoved] at hcall
  unfold transition
  rw [hnumber]
  exact (Program.run_ask hcall _).1

theorem transition_refused (hstore : v.MeetsStore tr captures)
    (hnames : ¬ NamesSource t tr captures) (done : String) :
    let trace := (transition tr done captures).run (Tables.handler v.around) t
    trace.result = (ApiError.invalidTransition tr.source).response ∧ trace.state = t := by
  unfold transition
  cases hnumber : oneNumber captures with
  | error e =>
    exact (ApiError.invalidTransition tr.source).run_answer (Tables.handler v.around) t
  | ok n =>
    have hmiss : ∀ s ∈ t.sessions.rows, s.id = ⟨n⟩ → s.status ≠ tr.source :=
      fun s hs hid hstatus => hnames ⟨s, hs, by rw [hnumber, hid], hstatus⟩
    have hcall := Tables.handler_of_no_fault (c := .transitionById ⟨n⟩ tr) (hstore n hnumber) t
    simp only [Tables.perform, SessionTable.transitionById_of_forall_not hmiss,
      Tables.withSessions] at hcall
    exact ⟨(Program.run_ask hcall _).1, (Program.run_ask hcall _).2⟩

end Handlers

namespace App

variable (settings : Settings) (doc : Documentation)

theorem atEndpoint_transition (tr : Transition) :
    ∃ done, ∀ (key : String) (r : Request) (captures : Captures),
    atEndpoint settings doc key r captures tr.endpoint = Handlers.transition tr done captures := by
  cases tr with
  | start => exact ⟨_, fun _ _ _ => rfl⟩
  | finish => exact ⟨_, fun _ _ _ => rfl⟩

theorem visit_granted (hr : v.request.Reaches tr.endpoint captures)
    (hstore : v.MeetsStore tr captures) (hnames : NamesSource t tr captures) :
    (visit settings doc v t).result.status = 200 := by
  obtain ⟨done, hendpoint⟩ := atEndpoint_transition settings doc tr
  rw [(visit_run settings doc hr t).1, hendpoint, Handlers.transition_granted hstore hnames]
  rfl

def refusal (v : Visit) (tr : Transition) : Response :=
  finish settings v.fresh v.request
    (FailureLog.passed (ApiError.invalidTransition tr.source).response)

theorem status_refusal (v : Visit) (tr : Transition) : (refusal settings v tr).status = 400 :=
  (status_finish _).trans (FailureLog.status_passed _)

theorem visit_refused (hr : v.request.Reaches tr.endpoint captures)
    (hstore : v.MeetsStore tr captures) (hnames : ¬ NamesSource t tr captures) :
    (visit settings doc v t).result = refusal settings v tr ∧
    (visit settings doc v t).state = t := by
  obtain ⟨done, hendpoint⟩ := atEndpoint_transition settings doc tr
  obtain ⟨hresult, hstate⟩ := Handlers.transition_refused hstore hnames done
  rw [visit, (serve_run hr (Tables.handler v.around) t).1,
    (serve_run hr (Tables.handler v.around) t).2, hendpoint, hresult, hstate]
  exact ⟨rfl, rfl⟩

theorem method_ne_head_of_transition (hr : v.request.Reaches tr.endpoint captures) :
    v.request.method ≠ "HEAD" :=
  hr.method_ne_head (by cases tr <;> rfl)

theorem refusal_alike (hmethod : v.request.method ≠ "HEAD") (hmethod' : v'.request.method ≠ "HEAD")
    (horigin : v'.request.header? "origin" = v.request.header? "origin") (tr : Transition) :
    (refusal settings v' tr).body = (refusal settings v tr).body ∧
      (refusal settings v' tr).headersBesides RequestId.headerName =
        (refusal settings v tr).headersBesides RequestId.headerName := by
  constructor
  · rw [refusal, refusal, body_finish, body_finish, if_neg hmethod, if_neg hmethod']
  · simp [refusal, finish, withoutBody, hmethod, hmethod', Cors.mark, Cors.markUnder, horigin]

end App

/-- Whatever the tables hold, two requests for the same transition whose paths name no session in
the status that it leaves cannot be told apart by their answers. Both are bad requests with the same
body, and with the same headers apart from the name of the request; neither changes the tables. -/
theorem refusals_alike (settings : Settings) (doc : Documentation) (tr : Transition) (v v' : Visit)
    (t t' : Tables) (captures captures' : Captures)
    (hr : v.request.Reaches tr.endpoint captures) (hr' : v'.request.Reaches tr.endpoint captures')
    (hnames : ¬ NamesSource t tr captures) (hnames' : ¬ NamesSource t' tr captures')
    (hstore : v.MeetsStore tr captures) (hstore' : v'.MeetsStore tr captures')
    (horigin : v'.request.header? "origin" = v.request.header? "origin") :
    let trace := App.visit settings doc v t
    let trace' := App.visit settings doc v' t'
    trace.result.status = 400 ∧ trace'.result.status = 400 ∧
      trace'.result.body = trace.result.body ∧
      trace'.result.headersBesides RequestId.headerName =
        trace.result.headersBesides RequestId.headerName ∧
      trace.state = t ∧ trace'.state = t' := by
  intro trace trace'
  obtain ⟨hresult, hstate⟩ := App.visit_refused settings doc hr hstore hnames
  obtain ⟨hresult', hstate'⟩ := App.visit_refused settings doc hr' hstore' hnames'
  have hmethod := App.method_ne_head_of_transition hr
  have hmethod' := App.method_ne_head_of_transition hr'
  obtain ⟨hbody, hheaders⟩ := App.refusal_alike settings hmethod hmethod' horigin tr
  simp only [trace, trace', hresult, hresult']
  exact ⟨App.status_refusal settings v tr, App.status_refusal settings v' tr, hbody, hheaders,
    hstate, hstate'⟩

def createdTables : Tables :=
  (App.converse .standard .null .empty [posted "/api/live/sessions" "[7]"]).2

/-- A sign or a zero in front, encoded or not, does not keep a path from naming the first session,
where a word names none. -/
theorem signed_segments_granted :
    let start := fun target => App.visit .standard .null (posted target "") createdTables
    createdTables.sessions.rows.map Session.status = [.pending] ∧
      (start "/api/live/sessions/one/start").result.status = 400 ∧
      (start "/api/live/sessions/+1/start").result.status = 200 ∧
      (start "/api/live/sessions/+1/start").state.sessions.rows.map Session.status = [.live] ∧
      (start "/api/live/sessions/01/start").result.status = 200 ∧
      (start "/api/live/sessions/%2B1/start").result.status = 200 := by
  intro start
  have hgranted : ∀ target segment,
      route? target = some (.startSession, [("id", segment)]) →
      NamesSource createdTables .start [("id", segment)] → (start target).result.status = 200 :=
    fun target segment hroute hnames =>
      have hr : (posted target "").request.Reaches Transition.start.endpoint [("id", segment)] :=
        ⟨hroute, rfl⟩
      App.visit_granted .standard .null hr (fun _ _ => rfl) hnames
  have hr : (posted "/api/live/sessions/one/start" "").request.Reaches Transition.start.endpoint
      [("id", "one".toList)] :=
    ⟨by decide +kernel, rfl⟩
  have hword : ¬NamesSource createdTables .start [("id", "one".toList)] := by decide +kernel
  have hrefused := App.visit_refused .standard .null hr (fun _ _ => rfl) hword
  refine ⟨by decide +kernel, ?_, hgranted _ "+1".toList (by decide +kernel) (by decide +kernel),
    by decide +kernel, hgranted _ "01".toList (by decide +kernel) (by decide +kernel),
    hgranted _ "%2B1".toList (by decide +kernel) (by decide +kernel)⟩
  exact (congrArg Response.status hrefused.1).trans (App.status_refusal .standard _ .start)

def startedTables : Tables :=
  (App.converse .standard .null .empty
    [posted "/api/live/sessions" "[7]", posted "/api/live/sessions/1/start" ""]).2

/-- To start the session again is refused like starting what is not even text. -/
theorem restart_refused_alike :
    let again := App.visit .standard .null (posted "/api/live/sessions/1/start" "") startedTables
    let garbled := App.visit .standard .null (posted "/api/live/sessions/%FF/start" "")
      startedTables
    startedTables.sessions.rows.map Session.status = [.live] ∧ again.result.status = 400 ∧
      garbled.result.body = again.result.body ∧ again.state = startedTables := by
  have halike := refusals_alike .standard .null .start (posted "/api/live/sessions/1/start" "")
    (posted "/api/live/sessions/%FF/start" "") startedTables startedTables [("id", ['1'])]
    [("id", ['%', 'F', 'F'])]
    ⟨by decide +kernel, by decide⟩ ⟨by decide +kernel, by decide⟩ (by decide +kernel)
    (by decide +kernel) (fun _ _ => rfl) (fun _ _ => rfl) rfl
  exact ⟨by decide +kernel, halike.1, halike.2.2.1, halike.2.2.2.2.1⟩

end Http

end LiveLesson
