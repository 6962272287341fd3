import LiveLesson.Proofs.Http.Protocol
import LiveLesson.Proofs.Session.Addresses
import LiveLesson.Proofs.Store.Fate
import LiveLesson.Proofs.Store.TableHistory

/-!
The media server's reports. A report under the path of a session's address reaches that session: it
moves the session on if the event fits its status, and changes nothing else.
-/

namespace LiveLesson

/-- The event that a report tells, if it keeps its rules and the event is known. -/
def StatusCallback.event? (p : StatusCallback) : Option StreamEvent :=
  match p.violations with
  | [] => StreamEvent.read? p.status
  | _ => none

namespace SessionTable

variable {t : SessionTable}

def moved (t : SessionTable) (id : SessionId) (tr : Transition) (now : Timestamp) : SessionTable :=
  (t.change (fun r => r.id == id) fun r => r.after tr now).2

theorem transitionByKey_of_mem (h : Distinct t.rows) {s : Session} (hs : s ∈ t.rows)
    (tr : Transition) (now : Timestamp) : (t.transitionByKey s.streamKey tr now).2 =
      if s.status = tr.source then t.moved s.id tr now else t := by
  rw [transitionByKey_eq h]
  -- No other session has the key, and none has the number.
  have hone : ∀ r ∈ t.rows, (r.streamKey == s.streamKey) = (r.id == s.id) := by
    intro r hr
    rw [Bool.eq_iff_iff, beq_iff_eq, beq_iff_eq]
    exact ⟨fun hkey => congrArg Session.id (h.eq_of_key hr hs hkey),
      fun hid => congrArg Session.streamKey (h.eq_of_id hr hs hid)⟩
  have hstatus : ∀ r ∈ t.rows, r.id = s.id → r.status = s.status :=
    fun r hr hid => congrArg Session.status (h.eq_of_id hr hs hid)
  split
  · next hsource =>
    refine congrArg (SessionTable.mk t.lastId) (List.map_congr_left fun r hr => ?_)
    by_cases hid : r.id = s.id
    · simp [hone r hr, hid, hstatus r hr hid, hsource]
    · simp [hone r hr, hid]
  · next hsource =>
    rw [change, map_if_of_forall_not]
    intro r hr
    by_cases hid : r.id = s.id
    · simp [hstatus r hr hid, hsource]
    · simp [hone r hr, hid]

end SessionTable

namespace Tables

theorem key_of_answerAll {t : Tables} (hwf : t.sessions.WellFormed)
    (calls : List (Surroundings × Call)) {s' : Session}
    (hs' : s' ∈ (answerAll calls t).sessions.rows) :
    (∃ s ∈ t.sessions.rows, s.streamKey = s'.streamKey) ∨
      ∃ x ∈ calls, ∃ course, x.2 = .insertPending course s'.streamKey := by
  induction calls generalizing t with
  | nil => exact .inl ⟨s', hs', rfl⟩
  | cons x rest ih =>
    rcases ih (answer_wellFormed hwf x.1 x.2) hs' with ⟨s, hs, hkey⟩ | ⟨y, hy, hcall⟩
    · rcases key_of_answer hwf x.1 x.2 hs with ⟨r, hr, hsame⟩ | ⟨course, hcall⟩
      · exact .inl ⟨r, hr, hsame.trans hkey⟩
      · exact .inr ⟨x, List.mem_cons_self, course, hkey ▸ hcall⟩
    · exact .inr ⟨y, List.mem_cons_of_mem _ hy, hcall⟩

end Tables

namespace Http

open Program

namespace Handlers

theorem applyEvent_state {σ : Type} (h : Handler σ) (key : String) (e : StreamEvent) (s : σ) :
    ((LiveSession.applyEvent key e).run h s).state =
      (h (.transitionByKey key e.transition) s).2 := by
  refine (run_of_next? h (c := .transitionByKey key e.transition) rfl s).2.trans ?_
  rcases (h (.transitionByKey key e.transition) s).1 with err | _ | _ <;> rfl

/-- A report makes at most the one call that its event asks for. -/
theorem streamStatus_state {σ : Type} (h : Handler σ) {r : Request} {p : StatusCallback}
    {key : String} (hread : readBody StatusCallback.record.wire r = .ok p)
    (hkey : StreamPath.key? p.streamPath = some key) (s : σ) :
    ((streamStatus r).run h s).state =
      p.event?.elim s fun e => (h (.transitionByKey key e.transition) s).2 := by
  cases hrules : p.violations with
  | cons v vs =>
    have hevent : p.event? = none := by simp only [StatusCallback.event?, hrules]
    simp only [streamStatus, payload, hread, hrules, orAnswer, hevent, Option.elim_none]
    exact (ApiError.run_answer _ h s).2
  | nil =>
    have hevent : p.event? = StreamEvent.read?
        p.status := by simp only [StatusCallback.event?, hrules]
    simp only [streamStatus, payload, hread, hrules, orAnswer, hkey, hevent]
    cases StreamEvent.read? p.status with
    | none => rfl
    | some e =>
      rw [(run_bind h _ _ s).2, applyEvent_state, Option.elim_some]
      cases ((LiveSession.applyEvent key e).run h s).result with
      | ok outcome => rfl
      | error err => exact (ApiError.run_answer _ h _).2

theorem streamStatus_state_of_mem {r : Request} {p : StatusCallback}
    (hread : readBody StatusCallback.record.wire r = .ok p) {t : Tables}
    (hwf : t.sessions.WellFormed) {s : Session} (hs : s ∈ t.sessions.rows)
    (hkey : StreamPath.key? p.streamPath = some s.streamKey) (around : Call → Tables.Surroundings) :
    ((streamStatus r).run (Tables.handler around) t).state = p.event?.elim t fun e =>
      let met := around (.transitionByKey s.streamKey e.transition)
      if met.fault = none ∧ s.status = e.transition.source then
        { t with sessions := t.sessions.moved s.id e.transition met.now }
      else t := by
  rw [streamStatus_state _ hread hkey]
  cases p.event? with
  | none => rfl
  | some e =>
    simp only [Option.elim_some]
    cases hfault : (around (.transitionByKey s.streamKey e.transition)).fault with
    | some err =>
      rw [if_neg fun h => nomatch h.1]
      exact congrArg Prod.snd (Tables.handler_of_fault
        (c := .transitionByKey s.streamKey e.transition) hfault t)
    | none =>
      have hcall :=
        Tables.handler_of_no_fault (c := .transitionByKey s.streamKey e.transition) hfault t
      refine (congrArg Prod.snd hcall).trans ?_
      refine (congrArg (Tables.mk · t.quiz)
        (SessionTable.transitionByKey_of_mem hwf.distinct hs _ _)).trans ?_
      by_cases hsource : s.status = e.transition.source
      · rw [if_pos hsource, if_pos ⟨rfl, hsource⟩]
      · rw [if_neg hsource, if_neg fun h => hsource h.2]

end Handlers

end Http

/-- Addresses that are given out and reports that come in speak of the same sessions. Generated keys
are not blank and hold no slash. If the application holds no slash inside, then for every such key
the addresses are made of scheme, host and port, and one path, and of this path a report reads
exactly that key. Other keys have other addresses; slashes behind the host and around the
application change none. Whatever calls have been made, a report under the path of a stored
session's address moves that session on if it keeps its rules, meets no failure and tells an event
that fits the session's status, and leaves all other sessions, and otherwise everything, as it
was. -/
theorem addresses_lead_back :
    (∀ key, StreamKey.IsFresh key → StreamKey.IsPlain key) ∧
    (∀ (s : PlaybackSettings) (key : String), '/' ∉ PlaybackUrls.appChars s →
      StreamKey.IsPlain key →
      let urls := PlaybackUrls.ofKey s key
      ∃ path : String, StreamPath.key? path = some key ∧
        urls.rtmp = String.ofList (PlaybackUrls.origin "rtmp" s s.rtmpPort) ++ path ∧
        urls.flv = String.ofList (PlaybackUrls.origin "http" s s.flvPort) ++ path ++ ".flv" ∧
        urls.hls = String.ofList (PlaybackUrls.origin "http" s s.hlsPort) ++ path ++ ".m3u8" ∧
        ('/' ∉ PlaybackUrls.hostChars s → PlaybackUrls.behindOrigin urls.rtmp = path)) ∧
    (∀ (s : PlaybackSettings) (key key' : String), key ≠ key' →
      let urls := PlaybackUrls.ofKey s key
      let urls' := PlaybackUrls.ofKey s key'
      urls.rtmp ≠ urls'.rtmp ∧ urls.flv ≠ urls'.flv ∧ urls.hls ≠ urls'.hls) ∧
    (∀ (s : PlaybackSettings) (key : String) (behind front back : Nat),
      PlaybackUrls.ofKey
        { s with
          host := s.host ++ slashes behind, app := slashes front ++ s.app ++ slashes back } key =
          PlaybackUrls.ofKey s key) ∧
    ∀ calls : List (Tables.Surroundings × Call),
      let t := Tables.answerAll calls .empty
      ((∀ x ∈ calls, ∀ course key, x.2 = .insertPending course key → StreamKey.IsFresh key) →
        ∀ s ∈ t.sessions.rows, StreamKey.IsPlain s.streamKey) ∧
      ∀ (settings : Settings) (doc : Http.Documentation) (s : Session) (v : Http.Visit)
        (p : StatusCallback),
        '/' ∉ PlaybackUrls.appChars settings.streaming.playback → s ∈ t.sessions.rows →
        StreamKey.IsPlain s.streamKey → v.request.endpoint? = some .streamStatus →
        Http.readBody StatusCallback.record.wire v.request = .ok p →
        (PlaybackUrls.ofKey settings.streaming.playback s.streamKey).rtmp =
          String.ofList (PlaybackUrls.origin "rtmp" settings.streaming.playback
            settings.streaming.playback.rtmpPort) ++ p.streamPath →
        (Http.App.visit settings doc v t).state = p.event?.elim t fun e =>
          let met := v.around (.transitionByKey s.streamKey e.transition)
          if met.fault = none ∧ s.status = e.transition.source then
            { t with sessions := t.sessions.moved s.id e.transition met.now }
          else t := by
  refine ⟨fun key h => h.isPlain, fun s key happ hkey => PlaybackUrls.ofKey_parts happ hkey,
    fun s key key' hne => PlaybackUrls.ofKey_ne s hne, PlaybackUrls.ofKey_slashes, fun calls => ?_⟩
  intro t
  have hwf : t.sessions.WellFormed :=
    Tables.answerAll_wellFormed SessionTable.empty_wellFormed calls
  refine ⟨fun hfresh s hs => ?_, fun settings doc s v p happ hs hkey hendpoint hread hpath => ?_⟩
  · rcases Tables.key_of_answerAll SessionTable.empty_wellFormed calls hs with ⟨r, hr, _⟩ | ⟨x, hx,
      course, hcall⟩
    · cases hr
    · exact (hfresh x hx course s.streamKey hcall).isPlain
  · obtain ⟨captures, hr⟩ := Http.Request.endpoint?_eq_some_iff.1 hendpoint
    rw [(Http.App.visit_run settings doc hr t).2.2]
    exact Http.Handlers.streamStatus_state_of_mem hread hwf hs
      (PlaybackUrls.key?_of_rtmp happ hkey hpath) v.around

/-- The second of two sessions is reported to have begun, under an application that was given with
slashes. -/
theorem reported_session_started :
    let calm : Tables.Surroundings := ⟨⟨0, 0⟩, none, .ok ()⟩
    let calls : List (Tables.Surroundings × Call) :=
      [(calm, .insertPending ⟨1⟩ "k"), (calm, .insertPending ⟨1⟩ "l")]
    let playback : PlaybackSettings := { PlaybackSettings.standard with app := "/live//" }
    let settings :=
      { Settings.standard with
        streaming := { StreamingSettings.standard with playback := playback } }
    let t := Tables.answerAll calls .empty
    (Http.App.visit settings .null (Http.posted "/api/live/status" "[\"/live/l\",\"start\"]")
      t).state =
      { t with sessions := t.sessions.moved ⟨2⟩ .start ⟨0, 0⟩ } := by
  intro calm calls playback settings t
  have hs : Session.pending ⟨2⟩ ⟨1⟩ "l" ⟨0, 0⟩ ∈ t.sessions.rows := by decide
  have hread : Http.readBody StatusCallback.record.wire
      (Http.posted "/api/live/status" "[\"/live/l\",\"start\"]").request =
        .ok ⟨"/live/l", "start"⟩ := by
    decide +kernel
  have hstate := (addresses_lead_back.2.2.2.2 calls).2 settings .null _ _ _ (by decide)
    hs (by decide) (by decide +kernel) hread (by decide +kernel)
  exact hstate.trans (by decide +kernel)

end LiveLesson
