import LiveLesson.Proofs.Http.Callback
import LiveLesson.Proofs.Session.Reports
import LiveLesson.Proofs.Store.Reachable
import LiveLesson.Proofs.Validation.Rules

/-!
How a report of the media server is answered. A path that names no key is refused. Otherwise the
report is acknowledged, and the acknowledgement tells whether a session of that key was in the
status that the event leaves; then this session is moved on, and nothing else happens.
-/

namespace LiveLesson

/-- What an event makes of a session at some moment. -/
inductive StreamEvent.Moves (now : Timestamp) : StreamEvent → Session → Session → Prop
  | start {s : Session} : s.status = .pending →
    Moves now .start s { s with status := .live, startedAt := some now }
  | stop {s : Session} : s.status = .live →
    Moves now .stop s { s with status := .ended, endedAt := some now }

theorem StreamEvent.moves_iff {now : Timestamp} {e : StreamEvent} {s s' : Session} :
    e.Moves now s s' ↔ s.status = e.transition.source ∧ s' = s.after e.transition now := by
  constructor
  · rintro (hsource | hsource)
    · exact ⟨hsource, rfl⟩
    · exact ⟨hsource, rfl⟩
  · rintro ⟨hsource, rfl⟩
    cases e with
    | start => exact .start hsource
    | stop => exact .stop hsource

namespace SessionTable

variable {t : SessionTable} {tr : Transition}

theorem transitionByKey_of_split (h : Distinct t.rows) {front back : List Session} {s : Session}
    (hrows : t.rows = front ++ s :: back) (hsource : s.status = tr.source) (now : Timestamp) :
    t.transitionByKey s.streamKey tr now =
      (true, { t with rows := front ++ s.after tr now :: back }) := by
  -- Keys are distinct, so nothing before or behind the session is meant.
  have hkeys := h.keys
  rw [hrows, List.pairwise_append, List.pairwise_cons] at hkeys
  obtain ⟨-, ⟨hback, -⟩, hfront⟩ := hkeys
  have hmeant : (s.streamKey == s.streamKey && s.status == tr.source) = true := by simp [hsource]
  rw [transitionByKey_eq h, change, hrows, List.map_append, List.map_cons, if_pos hmeant,
    map_if_of_forall_not, map_if_of_forall_not]
  · simp [hsource]
  · intro r hr
    simp [(hback r hr).symm]
  · intro r hr
    simp [hfront r hr s List.mem_cons_self]

theorem transitionByKey_of_forall_ne {key : String}
    (hnone : ∀ s ∈ t.rows, s.streamKey = key → s.status ≠ tr.source) (now : Timestamp) :
    t.transitionByKey key tr now = (false, t) := by
  have hrows : updateFirst (fun s => s.streamKey == key && s.status == tr.source)
      (fun s => s.after tr now) t.rows =
      none := by
    rw [updateFirst_eq_none]
    simpa using hnone
  rw [transitionByKey, transition, hrows, replace]

end SessionTable

namespace Http

open Program

namespace Handlers

theorem applyEvent_run {σ : Type} {h : Handler σ} {key : String} {e : StreamEvent}
    {moved : Bool} {s s' : σ} (hcall : h (.transitionByKey key e.transition) s = (.ok moved, s')) :
    ((LiveSession.applyEvent key e).run h s).result =
      .ok (if moved then .applied e.transition else .ignored) ∧
      ((LiveSession.applyEvent key e).run h s).state = s' := by
  unfold LiveSession.applyEvent
  refine ⟨(run_ask hcall _).1.trans ?_, (run_ask hcall _).2.trans ?_⟩ <;> cases moved <;> rfl

section Run

variable {σ : Type} (h : Handler σ) {r : Request} {p : StatusCallback} {key : String}
  (hread : readBody StatusCallback.record.wire r = .ok p) (hrules : p.violations = []) (s : σ)

include hread hrules

theorem streamStatus_run_of_no_key (hkey : StreamPath.key? p.streamPath = none) :
    ((streamStatus r).run h s).result = (ApiError.ofStreamPath p.streamPath).response ∧
      ((streamStatus r).run h s).state = s := by
  simp only [streamStatus, payload, hread, hrules, orAnswer, hkey]
  exact ApiError.run_answer _ h s

theorem streamStatus_run_of_no_event (hkey : StreamPath.key? p.streamPath = some key)
    (hevent : StreamEvent.read? p.status = none) :
    ((streamStatus r).run h s).result = acknowledge "Status ignored" ∧
    ((streamStatus r).run h s).state = s := by
  simp only [streamStatus, payload, hread, hrules, orAnswer, hkey, hevent]
  exact ⟨rfl, rfl⟩

theorem streamStatus_run_of_event (hkey : StreamPath.key? p.streamPath = some key) {e : StreamEvent}
    (hevent : StreamEvent.read? p.status = some e) {moved : Bool} {s' : σ}
    (hcall : h (.transitionByKey key e.transition) s = (.ok moved, s')) :
    ((streamStatus r).run h s).result =
      acknowledge (if moved then "Status applied" else "Status ignored") ∧
      ((streamStatus r).run h s).state = s' := by
  simp only [streamStatus, payload, hread, hrules, orAnswer, hkey, hevent]
  obtain ⟨hresult, hstate⟩ := applyEvent_run hcall
  rw [(run_bind h _ _ s).1, (run_bind h _ _ s).2, hresult, hstate]
  cases moved <;> exact ⟨rfl, rfl⟩

end Run

end Handlers

/-- A visit is answered with a success and that message, and leaves those tables. -/
structure Acknowledges (trace : Trace Response Tables) (message : String) (t : Tables) : Prop where
  status : trace.result.status = 200
  body : trace.result.body = (Message.record.encode ⟨message⟩).text
  state : trace.state = t

section Visit

variable {settings : Settings} {doc : Documentation} {t : Tables} {v : Visit} {p : StatusCallback}
  {key : String}
  (hendpoint : v.request.endpoint? = some .streamStatus)
  (hread : readBody StatusCallback.record.wire v.request = .ok p) (hrules : p.violations = [])

include hendpoint

theorem acknowledges_of_streamStatus {message : String} {t' : Tables}
    (h : ((Handlers.streamStatus v.request).run (Tables.handler v.around) t).result =
      Handlers.acknowledge message ∧
      ((Handlers.streamStatus v.request).run (Tables.handler v.around) t).state = t') :
    Acknowledges (App.visit settings doc v t) message t' := by
  obtain ⟨captures, hr⟩ := Request.endpoint?_eq_some_iff.1 hendpoint
  obtain ⟨hstatus, hbody, hstate⟩ := App.visit_run settings doc hr t
  refine ⟨hstatus.trans (congrArg Response.status h.1), ?_, hstate.trans h.2⟩
  exact (hbody (congrArg Response.isFailure h.1) (hr.method_ne_head rfl)).trans
    (congrArg Response.body h.1)

include hread hrules

theorem refused_of_no_key (hkey : StreamPath.key? p.streamPath = none) :
    (App.visit settings doc v t).result.status = 400 ∧ (App.visit settings doc v t).state = t := by
  obtain ⟨captures, hr⟩ := Request.endpoint?_eq_some_iff.1 hendpoint
  obtain ⟨hstatus, _, hstate⟩ := App.visit_run settings doc hr t
  obtain ⟨hresult, hsame⟩ :=
    Handlers.streamStatus_run_of_no_key (Tables.handler v.around) hread hrules t hkey
  exact ⟨hstatus.trans (congrArg Response.status hresult), hstate.trans hsame⟩

variable (hkey : StreamPath.key? p.streamPath = some key)
  (hstore : ∀ key tr, (v.around (.transitionByKey key tr)).fault = none)

include hkey hstore

theorem acknowledges_of_event {e : StreamEvent} (hevent : StreamEvent.read? p.status = some e)
    {moved : Bool} {sessions : SessionTable}
    (htable : t.sessions.transitionByKey key e.transition
      (v.around (.transitionByKey key e.transition)).now =
      (moved, sessions)) :
    Acknowledges (App.visit settings doc v t) (if moved then "Status applied" else "Status ignored")
      { t with sessions := sessions } := by
  refine acknowledges_of_streamStatus hendpoint
    (Handlers.streamStatus_run_of_event (Tables.handler v.around) hread hrules t hkey hevent ?_)
  rw [Tables.handler_of_no_fault (c := .transitionByKey key e.transition) (hstore key e.transition)]
  exact congrArg t.withSessions htable

theorem status_of_key : (App.visit settings doc v t).result.status = 200 := by
  cases hevent : StreamEvent.read? p.status with
  | none =>
    exact (acknowledges_of_streamStatus hendpoint
      (Handlers.streamStatus_run_of_no_event (Tables.handler v.around) hread hrules t hkey
        hevent)).status
  | some e => exact (acknowledges_of_event hendpoint hread hrules hkey hstore hevent rfl).status

theorem acknowledges_of_moves (hwf : t.sessions.WellFormed) {e : StreamEvent}
    (hevent : e.IsToldBy p.status) {front back : List Session} {s s' : Session}
    (hrows : t.sessions.rows = front ++ s :: back) (hs : s.streamKey = key)
    (hmoves : e.Moves (v.around (.transitionByKey key e.transition)).now s s') :
    Acknowledges (App.visit settings doc v t) "Status applied"
      { t with sessions := { t.sessions with rows := front ++ s' :: back } } := by
  subst hs
  obtain ⟨hsource, rfl⟩ := StreamEvent.moves_iff.1 hmoves
  exact acknowledges_of_event hendpoint hread hrules hkey hstore
    (StreamEvent.read?_eq_some_iff.2 hevent)
    (SessionTable.transitionByKey_of_split hwf.distinct hrows hsource _)

theorem acknowledges_of_not_moves (hnone : ∀ (e : StreamEvent) s s' now, e.IsToldBy p.status →
    s ∈ t.sessions.rows →
      s.streamKey = key → ¬ e.Moves now s s') :
    Acknowledges (App.visit settings doc v t) "Status ignored" t := by
  cases hevent : StreamEvent.read? p.status with
  | none =>
    exact acknowledges_of_streamStatus hendpoint
      (Handlers.streamStatus_run_of_no_event (Tables.handler v.around) hread hrules t hkey hevent)
  | some e =>
    refine acknowledges_of_event hendpoint hread hrules hkey hstore hevent
      (SessionTable.transitionByKey_of_forall_ne (fun s hs hskey hsource => ?_) _)
    exact hnone e s _ default (StreamEvent.read?_eq_some_iff.1 hevent) hs hskey
      (StreamEvent.moves_iff.2 ⟨hsource, rfl⟩)

end Visit

/-- Reports are answered by the form of their path, by their status and by the session of their key,
whatever has gone on before. If the path names no key, and only then, the report is refused.
Otherwise, if a session of just this key is in the status that the event leaves, this session is
moved on, the others and all else stay as they are, and the sender is told so. In all other cases
nothing changes, and the sender is told that the report was ignored. -/
theorem report_answered (settings : Settings) (doc : Documentation) {t : Tables}
    (ht : Tables.empty.Leads t) {v : Visit} {p : StatusCallback}
    (hendpoint : v.request.endpoint? = some .streamStatus)
    (hread : readBody StatusCallback.record.wire v.request = .ok p)
    (hpath : 1 ≤ p.streamPath.toList.length ∧ p.streamPath.toList.length ≤ 512)
    (hstatus : p.status.toList.length ≤ 64)
    (hstore : ∀ key tr, (v.around (.transitionByKey key tr)).fault = none) :
    let trace := App.visit settings doc v t
    (trace.result.status = 400 ∧ trace.state = t ↔ ¬ ∃ key, StreamPath.Names p.streamPath key) ∧
    ∀ key, StreamPath.Names p.streamPath key →
      (∀ (e : StreamEvent) (front : List Session) (s s' : Session) (back : List Session),
        e.IsToldBy p.status → t.sessions.rows = front ++ s :: back → s.streamKey = key →
        e.Moves (v.around (.transitionByKey key e.transition)).now s s' →
        Acknowledges trace "Status applied"
          { t with sessions := { t.sessions with rows := front ++ s' :: back } }) ∧
      ((∀ (e : StreamEvent) s s' now, e.IsToldBy p.status → s ∈ t.sessions.rows →
        s.streamKey = key →
          ¬ e.Moves now s s') →
        Acknowledges trace "Status ignored" t) := by
  intro trace
  have hrules : p.violations = [] := by
    rw [StatusCallback.violations, List.append_eq_nil_iff, Rule.lengthWithin_eq_nil_iff,
      Rule.lengthWithin_eq_nil_iff]
    exact ⟨⟨Nat.zero_le _, hstatus⟩, hpath⟩
  have hwf : t.sessions.WellFormed := ht.sessions_wellFormed SessionTable.empty_wellFormed
  refine ⟨⟨?_, fun hunnamed => ?_⟩, fun key hnames => ?_⟩
  · rintro ⟨hrefused, -⟩ ⟨key, hnames⟩
    have hsuccess : trace.result.status = 200 :=
      status_of_key hendpoint hread hrules (StreamPath.key?_eq_some_iff.2 hnames) hstore
    exact absurd (hrefused.symm.trans hsuccess) (by decide)
  · refine refused_of_no_key hendpoint hread hrules
      (Option.eq_none_iff_forall_ne_some.2 fun key hkey => ?_)
    exact hunnamed ⟨key, StreamPath.key?_eq_some_iff.1 hkey⟩
  · have hkey := StreamPath.key?_eq_some_iff.2 hnames
    refine ⟨fun e front s s' back htold hrows hs hmoves => ?_, fun hnone => ?_⟩
    · exact acknowledges_of_moves hendpoint hread hrules hkey hstore hwf htold hrows hs hmoves
    · exact acknowledges_of_not_moves hendpoint hread hrules hkey hstore hnone

def loudReport : Visit := posted "/api/live/status" "[\"/live/k/720p\",\" START\\n\"]"

theorem loudReport_answered :
    let t := (Tables.answer (Tables.calm .checkDatabase) (.insertPending ⟨1⟩ "k") .empty).2
    Acknowledges (App.visit .standard .null loudReport t) "Status applied"
      { t with sessions := ⟨1, [⟨⟨1⟩, ⟨1⟩, "k", .live, some ⟨0, 0⟩, none, none, ⟨0, 0⟩⟩]⟩ } := by
  intro t
  have ht : Tables.empty.Leads t := .call _ _ .here
  have hread : readBody StatusCallback.record.wire loudReport.request =
      .ok ⟨"/live/k/720p", " START\n"⟩ := by
    decide +kernel
  have hnames : StreamPath.Names "/live/k/720p" "k" :=
    StreamPath.key?_eq_some_iff.1 (by decide +kernel)
  have htold : StreamEvent.start.IsToldBy " START\n" :=
    StreamEvent.read?_eq_some_iff.1 (by decide +kernel)
  obtain ⟨-, hkeyed⟩ := report_answered .standard .null ht (by decide +kernel) hread
    (by decide) (by decide)
    fun _ _ => rfl
  exact (hkeyed "k" hnames).1 .start [] (.pending ⟨1⟩ ⟨1⟩ "k" ⟨0, 0⟩) _ [] htold (by decide) rfl
    (.start rfl)

end Http

end LiveLesson
