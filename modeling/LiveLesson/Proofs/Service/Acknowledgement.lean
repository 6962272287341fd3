import LiveLesson.Proofs.Service.TableRuns

/-!
Acknowledged transitions. Of all operations that run side by side, in any order of their calls and
with any failures, at most one is told that it started a session and at most one that it ended it;
the status that is stored counts what was acknowledged.
-/

namespace LiveLesson

/-- Someone is told in this event that the session with the identifier went through the transition:
an operation on the identifier succeeded, or an event was applied under the key that the session
holds. By `System.result?_begin` nobody is told anything outside of events. -/
def Event.acknowledges (id : SessionId) (t : Transition) (e : Event Tables) : Bool :=
  match e.ended with
  | some (.start i, .ok _) => t == .start && i == id
  | some (.finish i, .ok _) => t == .finish && i == id
  | some (.event key _, .ok (.callback (.applied u))) =>
    u == t && (e.before.sessions.find? id).any fun s => s.streamKey == key
  | _ => false

/-- The call of this event asked that the session goes through the transition and met no failure. -/
def Event.Asks (id : SessionId) (t : Transition) (moved : Bool) (e : Event Tables) : Prop :=
  ∃ i x, e.exchange = some (i, x) ∧ x.Asks id (e.before.sessions.find? id) t moved

/-- How often a session in this status has been through the transition. -/
def Status.passed : Status → Transition → Nat
  | .pending, _ => 0
  | .live, .start => 1
  | .live, .finish => 0
  | .ended, _ => 1

theorem Status.passed_target (t u : Transition) :
    t.target.passed u = t.source.passed u + if u = t then 1 else 0 := by
  cases t <;> cases u <;> rfl

theorem Status.passed_le (st : Status) (t : Transition) : st.passed t ≤ 1 := by
  cases st <;> cases t <;> decide

namespace Event.Follows

variable {settings : PlaybackSettings} {operations : List Operation} {past : List (Event Tables)}
  {e : Event Tables} {id : SessionId} {t : Transition}

theorem asks_of_acknowledges (h : e.Follows Tables.world settings operations past)
    (hack : e.acknowledges id t = true) : e.Asks id t true := by
  unfold acknowledges at hack
  split at hack
  · next i v hended =>
    obtain ⟨j, x, hx, _, hends⟩ := h.of_ended hended
    obtain ⟨rfl, rfl⟩ : t = .start ∧ i = id := by simpa using hack
    exact ⟨j, x, hx, hends.last_of_start ▸ .byId⟩
  · next i v hended =>
    obtain ⟨j, x, hx, _, hends⟩ := h.of_ended hended
    obtain ⟨rfl, rfl⟩ : t = .finish ∧ i = id := by simpa using hack
    exact ⟨j, x, hx, hends.last_of_finish ▸ .byId⟩
  · next key v u hended =>
    obtain ⟨j, x, hx, _, hends⟩ := h.of_ended hended
    obtain ⟨hu, hlast⟩ := hends.last_of_applied
    obtain ⟨rfl, s, hs, hkey⟩ : u = t ∧ ∃ s, e.before.sessions.find? id = some s ∧
        s.streamKey = key := by
      simpa [Option.any_eq_true] using hack
    exact ⟨j, x, hx, hlast ▸ .byKey hs hkey⟩
  · cases hack

theorem acknowledges_of_asks (h : e.Follows Tables.world settings operations past)
    (hasks : e.Asks id t true) : e.acknowledges id t = true := by
  obtain ⟨i, x, hx, hasks⟩ := hasks
  obtain ⟨o, _, ho, hmay, _⟩ := h.answered hx
  cases hasks with
  | byId =>
    obtain ⟨hfirst, ⟨rfl, rfl⟩ | ⟨rfl, rfl⟩⟩ := hmay.of_transitionById
    · obtain ⟨a, hended, hends⟩ := h.ended_of_single hx ho hfirst fun c hmore => by cases hmore
      cases hends
      simp [acknowledges, hended]
    · obtain ⟨a, hended, hends⟩ := h.ended_of_single hx ho hfirst fun c hmore => by cases hmore
      cases hends
      simp [acknowledges, hended]
  | byKey hs hkey =>
    obtain ⟨hfirst, v, rfl, rfl⟩ := hmay.of_transitionByKey
    obtain ⟨a, hended, hends⟩ := h.ended_of_single hx ho hfirst fun c hmore => by cases hmore
    cases hends
    simp [acknowledges, hended, hs, hkey]

/-- What is acknowledged is what a call did. -/
theorem acknowledges_iff (h : e.Follows Tables.world settings operations past) :
    e.acknowledges id t = true ↔ e.Asks id t true :=
  ⟨h.asks_of_acknowledges, h.acknowledges_of_asks⟩

end Event.Follows

/-- What was acknowledged for a session fits what is stored: it is as much as some status stands
for, that of the session if it is stored, and nothing if the identifier was not given out yet. -/
structure Tallied (id : SessionId) (past : List (Event Tables)) (t : Tables) : Prop where
  bounded : ∃ st : Status, ∀ tr, past.countP (Event.acknowledges id tr) = st.passed tr
  stored : ∀ s, t.sessions.find? id = some s →
    ∀ tr, past.countP (Event.acknowledges id tr) = s.status.passed tr
  unused : t.sessions.lastId < id.value → ∀ tr, past.countP (Event.acknowledges id tr) = 0

namespace Tallied

variable {settings : PlaybackSettings} {operations : List Operation} {past : List (Event Tables)}
  {e : Event Tables} {id : SessionId}

theorem begin (id : SessionId) : Tallied id [] .empty where
  bounded := ⟨.pending, fun tr => rfl⟩
  stored s hs := by simp [Tables.empty, SessionTable.empty, SessionTable.find?] at hs
  unused _ tr := rfl

theorem keep (h : Tallied id past e.before) (hnot : ∀ tr, ¬ e.acknowledges id tr = true)
    (hle : e.before.sessions.lastId ≤ e.after.sessions.lastId)
    (hsame : ∀ s', e.after.sessions.find? id = some s' →
      (e.before.sessions.lastId < id.value ∧ s'.status = .pending) ∨
        ∃ s, e.before.sessions.find? id = some s ∧ s'.status = s.status) :
    Tallied id (past ++ [e]) e.after := by
  have hcount : ∀ tr, (past ++ [e]).countP (Event.acknowledges id tr) =
      past.countP (Event.acknowledges id tr) := by
    intro tr
    simp [List.countP_append, hnot tr]
  constructor
  · simpa only [hcount] using h.bounded
  · intro s' hs' tr
    rw [hcount]
    obtain ⟨hunused, hpending⟩ | ⟨s, hs, hstatus⟩ := hsame s' hs'
    · rw [h.unused hunused tr, hpending]
      rfl
    · rw [h.stored s hs tr, hstatus]
  · intro hunused tr
    rw [hcount]
    exact h.unused (Int.lt_of_le_of_lt hle hunused) tr

theorem move (h : Tallied id past e.before) (hwf : e.before.sessions.WellFormed)
    (hle : e.before.sessions.lastId ≤ e.after.sessions.lastId) {s s' : Session} {t : Transition}
    (hs : e.before.sessions.find? id = some s) (hs' : e.after.sessions.find? id = some s')
    (hsource : s.status = t.source) (htarget : s'.status = t.target)
    (hack : ∀ tr, e.acknowledges id tr = true ↔ tr = t) : Tallied id (past ++ [e]) e.after := by
  have hcount : ∀ tr, (past ++ [e]).countP (Event.acknowledges id tr) = s'.status.passed tr := by
    intro tr
    rw [List.countP_append, List.countP_singleton, h.stored s hs tr, hsource, htarget,
      Status.passed_target]
    simp only [hack tr]
  constructor
  · exact ⟨s'.status, hcount⟩
  · intro r hr
    rw [hs'] at hr
    exact Option.some.inj hr ▸ hcount
  · intro hunused
    have hbounds := hwf.bounds s (SessionTable.mem_of_find? hs)
    rw [SessionTable.id_of_find? hs] at hbounds
    omega

theorem step (h : Tallied id past e.before) (hwf : e.before.sessions.WellFormed)
    (he : e.Follows Tables.world settings operations past) : Tallied id (past ++ [e]) e.after := by
  have hle := he.lastId_le hwf
  cases hx : e.exchange with
  | none =>
    refine h.keep (fun tr hack => ?_) hle fun s' hs' =>
      .inr ⟨s', he.find?_of_no_exchange hwf hx hs', rfl⟩
    obtain ⟨i, x, hx', _⟩ := he.acknowledges_iff.1 hack
    rw [hx] at hx'
    cases hx'
  | some ix =>
    obtain ⟨i, x⟩ := ix
    obtain ⟨now, hfate⟩ := he.fate hwf hx id
    have hack : ∀ tr, e.acknowledges id tr = true ↔
        x.Asks id (e.before.sessions.find? id) tr true := by
      intro tr
      rw [he.acknowledges_iff]
      simp [Event.Asks, hx]
    obtain ⟨s, s', t, hs, hs', hsource, htarget, hasks⟩ | ⟨hnot, hsame⟩ := hfate.moved_or_not
    · exact h.move hwf hle hs hs' hsource htarget fun tr => (hack tr).trans (hasks tr)
    · exact h.keep (fun tr htr => hnot tr ((hack tr).1 htr)) hle hsame

end Tallied

section Run

variable {settings : PlaybackSettings} {operations : List Operation} {turns : List Turn}
  {pre post : List (Event Tables)} {e : Event Tables}

theorem wellFormed_tallied_begin (id : SessionId) :
    SessionTable.empty.WellFormed ∧ Tallied id [] .empty :=
  ⟨SessionTable.empty_wellFormed, Tallied.begin id⟩

theorem wellFormed_tallied_step {id : SessionId} (past : List (Event Tables)) (e : Event Tables)
    (h : e.before.sessions.WellFormed ∧ Tallied id past e.before)
    (he : e.Follows Tables.world settings operations past) :
    e.after.sessions.WellFormed ∧ Tallied id (past ++ [e]) e.after :=
  ⟨he.wellFormed h.1, h.2.step h.1 he⟩

theorem tallied_before (id : SessionId)
    (hrun : ((System.begin settings operations .empty).run Tables.world turns).1 =
      pre ++ e :: post) :
    e.before.sessions.WellFormed ∧ Tallied id pre e.before ∧
    e.Follows Tables.world settings operations pre := by
  have hsplit := System.run_split Tables.world (fun past t => t.sessions.WellFormed ∧
    Tallied id past t) (wellFormed_tallied_begin id) wellFormed_tallied_step hrun
  exact ⟨hsplit.1.1, hsplit.1.2, hsplit.2⟩

theorem tallied_run (settings : PlaybackSettings) (operations : List Operation) (turns : List Turn)
    (id : SessionId) :
    let r := (System.begin settings operations .empty).run Tables.world turns
    Tallied id r.1 r.2.state :=
  (System.run_induction Tables.world (fun past t => t.sessions.WellFormed ∧ Tallied id past t)
    (wellFormed_tallied_begin id) wellFormed_tallied_step turns).2

/-- Who is told of an end comes after someone who was told of a start. -/
theorem started_of_finished {id : SessionId}
    (hrun : ((System.begin settings operations .empty).run Tables.world turns).1 = pre ++ e :: post)
    (hack : e.acknowledges id .finish = true) : ∃ a ∈ pre, a.acknowledges id .start = true := by
  obtain ⟨hwf, htally, he⟩ := tallied_before id hrun
  obtain ⟨i, x, hx, hasks⟩ := he.acknowledges_iff.1 hack
  obtain ⟨now, hfate⟩ := he.fate hwf hx id
  obtain ⟨s, s', t, hs, _, hsource, _, hall⟩ | ⟨hnot, _⟩ := hfate.moved_or_not
  · obtain rfl := (hall .finish).1 hasks
    have hcount := htally.stored s hs .start
    rw [hsource] at hcount
    exact List.countP_pos_iff.1 (by rw [hcount]; exact Nat.one_pos)
  · exact absurd hasks (hnot .finish)

theorem acknowledges_of_pending {id : SessionId} {s : Session} {moved : Bool}
    (hrun : ((System.begin settings operations .empty).run Tables.world turns).1 = pre ++ e :: post)
    (hs : e.before.sessions.find? id = some s) (hpending : s.status = .pending)
    (hasks : e.Asks id .start moved) : e.acknowledges id .start = true := by
  obtain ⟨hwf, _, he⟩ := tallied_before id hrun
  have hmoved : moved = true := by
    obtain ⟨i, x, hx, hx'⟩ := hasks
    obtain ⟨_, around, _, _, hxe, _, _⟩ := he.answered hx
    rw [hs, hxe] at hx'
    rw [Tables.answer_asks hwf hs hx', hpending]
    rfl
  exact he.acknowledges_iff.2 (hmoved ▸ hasks)

/-- Over every run from the empty tables: at most one start and at most one end of a session is
acknowledged, an end only after a start; at every moment the status that is stored says what was
acknowledged so far; and if anyone asked, without a failure, to start the session while it was
pending, exactly one start was acknowledged. -/
theorem acknowledged_once (settings : PlaybackSettings) (operations : List Operation)
    (turns : List Turn) (id : SessionId) :
    let events := ((System.begin settings operations .empty).run Tables.world turns).1
    (∀ t, events.countP (Event.acknowledges id t) ≤ 1) ∧
      ∀ pre e post, events = pre ++ e :: post →
        (e.acknowledges id .finish = true → ∃ a ∈ pre, a.acknowledges id .start = true) ∧
        (∀ s, e.after.sessions.find? id = some s →
          ∀ t, (pre ++ [e]).countP (Event.acknowledges id t) = s.status.passed t) ∧
        ∀ s moved, e.before.sessions.find? id = some s → s.status = .pending →
        e.Asks id .start moved →
          events.countP (Event.acknowledges id .start) = 1 := by
  intro events
  have honce : ∀ t, events.countP (Event.acknowledges id t) ≤ 1 := by
    intro t
    obtain ⟨st, hst⟩ := (tallied_run settings operations turns id).bounded
    rw [hst t]
    exact st.passed_le t
  refine ⟨honce, fun pre e post hrun => ⟨started_of_finished hrun, ?_, ?_⟩⟩
  · obtain ⟨hwf, htally, he⟩ := tallied_before id hrun
    exact (htally.step hwf he).stored
  · intro s moved hs hpending hasks
    have hack := acknowledges_of_pending hrun hs hpending hasks
    have hpos : 0 < events.countP (Event.acknowledges id .start) :=
      List.countP_pos_iff.2 ⟨e, by rw [hrun]; simp, hack⟩
    exact Nat.le_antisymm (honce .start) hpos

/-- A client and the media server start one session at the same time. -/
def racing : List Operation := [.create ⟨1⟩ "k", .start ⟨1⟩, .event "k" .start]

def racingTurns : List Turn :=
  let calm : Tables.Surroundings := ⟨⟨0, 0⟩, none, .ok ()⟩
  [.call 0 calm, .call 1 calm, .call 2 calm]

def racingRun : List (Event Tables) :=
  ((System.begin .standard racing .empty).run Tables.world racingTurns).1

theorem racing_acknowledged_once : racingRun.countP (Event.acknowledges ⟨1⟩ .start) = 1 :=
  ((acknowledged_once .standard racing racingTurns ⟨1⟩).2 (racingRun.take 1)
    (racingRun.get ⟨1, by decide⟩) (racingRun.drop 2) rfl).2.2 _ true rfl rfl ⟨1, _, rfl, .byId⟩

end Run

end LiveLesson
