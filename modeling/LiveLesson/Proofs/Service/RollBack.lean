import LiveLesson.Proofs.Service.Acknowledgement

/-!
What becomes of a session that was started. While the media server has not answered yet, the session
is in the table and others may start it; if the answer is a refusal, the session is removed all the
same. Nothing else removes a session that was started.
-/

namespace LiveLesson

/-- The operation that added the session was refused by the media server and removes the session
again. -/
def Event.RollsBack (operations : List Operation) (past : List (Event Tables)) (id : SessionId)
    (e : Event Tables) : Prop :=
  ∃ i course key s error, operations[i]? = some (.create course key) ∧ s.id = id ∧
    exchangesOf i past = [⟨.insertPending course key, .ok s⟩, ⟨.provision key, .error error⟩] ∧
    e.exchange = some (i, ⟨.deleteSession id, .ok true⟩)

def RolledBack (operations : List Operation) (id : SessionId) (past : List (Event Tables)) : Prop :=
  ∃ pre e post, past = pre ++ e :: post ∧ e.RollsBack operations pre id

theorem rolledBack_append_singleton {operations : List Operation} {id : SessionId}
    {past : List (Event Tables)} {e : Event Tables} : RolledBack operations id (past ++ [e]) ↔
      RolledBack operations id past ∨ e.RollsBack operations past id := by
  constructor
  · rintro ⟨pre, d, post, hpast, hd⟩
    obtain ⟨rfl, rfl⟩ | ⟨rest, hrest⟩ := last_or_earlier hpast
    · exact .inr hd
    · exact .inl ⟨pre, d, rest, hrest, hd⟩
  · rintro (⟨pre, d, post, rfl, hd⟩ | he)
    · exact ⟨pre, d, post ++ [e], by simp, hd⟩
    · exact ⟨past, e, [], rfl, he⟩

theorem Tables.answer_findSession {around : Surroundings} {id : SessionId} {t : Tables}
    {found : Option Session} (h : (answer around (.findSession id) t).1 = .ok found) :
    found = t.sessions.find? id := by
  unfold answer at h
  cases hfault : fault? around (.findSession id) with
  | some err =>
    rw [hfault] at h
    cases h
  | none =>
    rw [hfault] at h
    exact (Except.ok.inj h).symm

namespace Event.Follows

variable {settings : PlaybackSettings} {operations : List Operation} {past : List (Event Tables)}
  {e : Event Tables} {id : SessionId}

theorem rollsBack_iff (h : e.Follows Tables.world settings operations past) :
    e.RollsBack operations past id ↔ ∃ i, e.exchange = some (i, ⟨.deleteSession id, .ok true⟩) := by
  constructor
  · rintro ⟨i, _, _, _, _, _, _, _, hx⟩
    exact ⟨i, hx⟩
  · rintro ⟨i, hx⟩
    obtain ⟨o, _, ho, hmay, _, _, _⟩ := h.answered hx
    obtain ⟨course, key, s, error, rfl, hid, hpast⟩ := hmay.of_deleteSession
    exact ⟨i, course, key, s, error, ho, hid, hpast, hx⟩

/-- A session that is not pending is removed by rolling back and by nothing else. -/
theorem gone_iff (h : e.Follows Tables.world settings operations past)
    (hwf : e.before.sessions.WellFormed) {s : Session} (hs : e.before.sessions.find? id = some s)
    (hstatus : s.status ≠ .pending) :
    e.after.sessions.find? id = none ↔ e.RollsBack operations past id := by
  rw [h.rollsBack_iff]
  cases hx : e.exchange with
  | some ix =>
    obtain ⟨i, x⟩ := ix
    obtain ⟨now, hfate⟩ := h.fate hwf hx id
    rw [hs] at hfate
    simp [hfate.gone_iff]
  | none =>
    have hkept : e.after.sessions.find? id = some s := by
      obtain ⟨_, hsame | ⟨cutoff, hclean⟩⟩ := h.of_no_exchange hx
      · rwa [hsame]
      · rw [hclean]
        refine (SessionTable.find?_filter hwf.distinct _ id).trans ?_
        simp [hs, SessionTable.isStale, hstatus]
    simp [hkept]

theorem still_gone (h : e.Follows Tables.world settings operations past)
    (hwf : e.before.sessions.WellFormed) (hgone : e.before.sessions.find? id = none)
    (hle : id.value ≤ e.before.sessions.lastId) : e.after.sessions.find? id = none := by
  cases hx : e.exchange with
  | some ix =>
    obtain ⟨now, hfate⟩ := h.fate hwf hx id
    rw [hgone] at hfate
    exact hfate.still_gone hle
  | none =>
    refine Option.eq_none_iff_forall_ne_some.2 fun s hs => ?_
    rw [h.find?_of_no_exchange hwf hx hs] at hgone
    cases hgone

theorem get_result (h : e.Follows Tables.world settings operations past) {r : Operation.Outcome}
    (hended : e.ended = some (.get id, r)) (hr : ∀ err, r ≠ .error (.store err)) :
    r = (e.before.sessions.find? id).elim (.error (.notFound id)) fun s =>
    .ok (.session (s.view settings)) := by
  obtain ⟨i, x, hx, _, hends⟩ := h.of_ended hended
  obtain ⟨_, around, _, _, hxe, _, _⟩ := h.answered hx
  obtain ⟨err, hstore⟩ | ⟨found, rfl, hfound⟩ := hends.last_of_get
  · exact absurd hstore (hr err)
  · have hanswer : (Tables.answer around (.findSession id) e.before).1 = .ok found := by
      injection hxe with _ houtcome
      exact houtcome.symm
    rw [hfound, Tables.answer_findSession hanswer]

end Event.Follows

/-- A session that was rolled back is gone for good, and one that was started and not rolled back is
there. -/
structure Kept (operations : List Operation) (id : SessionId) (past : List (Event Tables))
    (t : Tables) : Prop where
  wellFormed : t.sessions.WellFormed
  tallied : Tallied id past t
  gone : RolledBack operations id past → t.sessions.find? id = none ∧ id.value ≤ t.sessions.lastId
  present : (∃ a ∈ past, a.acknowledges id .start = true) → ¬ RolledBack operations id past →
    ∃ s, t.sessions.find? id = some s

namespace Kept

variable {settings : PlaybackSettings} {operations : List Operation} {past : List (Event Tables)}
  {e : Event Tables} {id : SessionId}

theorem begin (operations : List Operation) (id : SessionId) : Kept operations id [] .empty where
  wellFormed := SessionTable.empty_wellFormed
  tallied := Tallied.begin id
  gone := by
    rintro ⟨pre, e, post, hpast, _⟩
    simp at hpast
  present := by simp

theorem status_ne_pending {t : Tables} (h : Tallied id past t)
    (hack : ∃ a ∈ past, a.acknowledges id .start = true) {s : Session}
    (hs : t.sessions.find? id = some s) : s.status ≠ .pending := by
  intro hpending
  have hpos := List.countP_pos_iff.2 hack
  rw [h.stored s hs .start, hpending] at hpos
  exact Nat.lt_irrefl 0 hpos

theorem step (h : Kept operations id past e.before)
    (he : e.Follows Tables.world settings operations past) :
    Kept operations id (past ++ [e]) e.after where
  wellFormed := he.wellFormed h.wellFormed
  tallied := h.tallied.step h.wellFormed he
  gone := by
    have hle := he.lastId_le h.wellFormed
    rw [rolledBack_append_singleton]
    rintro (hpast | hnow)
    · obtain ⟨hgone, hbound⟩ := h.gone hpast
      exact ⟨he.still_gone h.wellFormed hgone hbound, Int.le_trans hbound hle⟩
    · obtain ⟨i, hx⟩ := he.rollsBack_iff.1 hnow
      obtain ⟨now, hfate⟩ := he.fate h.wellFormed hx id
      obtain ⟨⟨s, hs⟩, hgone⟩ := hfate.removed_cases
      have hbounds := h.wellFormed.bounds s (SessionTable.mem_of_find? hs)
      rw [SessionTable.id_of_find? hs] at hbounds
      exact ⟨hgone, Int.le_trans hbounds.2 hle⟩
  present := by
    rw [rolledBack_append_singleton, not_or]
    rintro ⟨a, ha, hack⟩ ⟨hpast, hnow⟩
    rcases List.mem_append.1 ha with ha | ha
    · obtain ⟨s, hs⟩ := h.present ⟨a, ha, hack⟩ hpast
      have hstatus := status_ne_pending h.tallied ⟨a, ha, hack⟩ hs
      exact Option.ne_none_iff_exists'.1 fun hnone =>
        hnow ((he.gone_iff h.wellFormed hs hstatus).1 hnone)
    · obtain rfl := List.mem_singleton.1 ha
      obtain ⟨i, x, hx, hasks⟩ := he.acknowledges_iff.1 hack
      obtain ⟨now, hfate⟩ := he.fate h.wellFormed hx id
      obtain ⟨s, s', t, _, hs', _⟩ | ⟨hnot, _⟩ := hfate.moved_or_not
      · exact ⟨s', hs'⟩
      · exact absurd hasks (hnot .start)

end Kept

/-- After a start was acknowledged, in any run, the session is removed by the operation that added
it, when the media server refused the stream, and by nothing else. Until then every reader whom the
store answers gets the session; from then on it is not found. -/
theorem started_session_kept (settings : PlaybackSettings) (operations : List Operation)
    (turns : List Turn) (id : SessionId) (pre post : List (Event Tables)) (e : Event Tables)
    (hrun : ((System.begin settings operations .empty).run Tables.world turns).1 = pre ++ e :: post)
    (hack : ∃ a ∈ pre, a.acknowledges id .start = true) :
    (e.before.sessions.find? id ≠ none →
      (e.after.sessions.find? id = none ↔ e.RollsBack operations pre id)) ∧
    ∀ r, e.ended = some (.get id, r) → (∀ err, r ≠ .error (.store err)) →
      (RolledBack operations id pre → r = .error (.notFound id)) ∧
      (¬ RolledBack operations id pre → ∃ s, e.before.sessions.find? id = some s ∧
        s.status ≠ .pending ∧
        r = .ok (.session (s.view settings))) := by
  obtain ⟨hkept, he⟩ := System.run_split Tables.world (Kept operations id)
    (Kept.begin operations id) (fun past e h he => h.step he) hrun
  refine ⟨fun hfound => ?_, fun r hended hr => ⟨fun hback => ?_, fun hback => ?_⟩⟩
  · obtain ⟨s, hs⟩ := Option.ne_none_iff_exists'.1 hfound
    exact he.gone_iff hkept.wellFormed hs (Kept.status_ne_pending hkept.tallied hack hs)
  · rw [he.get_result hended hr, (hkept.gone hback).1]
    rfl
  · obtain ⟨s, hs⟩ := hkept.present hack hback
    refine ⟨s, hs, Kept.status_ne_pending hkept.tallied hack hs, ?_⟩
    rw [he.get_result hended hr, hs]
    rfl

/-- Someone starts a session between the calls of a create that is refused, and someone reads it
afterwards. -/
def overtaken : List Operation := [.create ⟨1⟩ "k", .start ⟨1⟩, .get ⟨1⟩]

def overtaking : List Turn :=
  let calm : Tables.Surroundings := ⟨⟨0, 0⟩, none, .ok ()⟩
  [.call 0 calm, .call 1 calm, .call 0 { calm with media := .error (.rejected 403 "") },
    .call 0 calm, .call 2 calm]

def overtakenRun : List (Event Tables) :=
  ((System.begin .standard overtaken .empty).run Tables.world overtaking).1

/-- The fourth call removes what the second one started. -/
theorem overtaken_session_removed :
    (overtakenRun.get ⟨3, by decide⟩).RollsBack overtaken (overtakenRun.take 3) ⟨1⟩ :=
  ((started_session_kept .standard overtaken overtaking ⟨1⟩ (overtakenRun.take 3)
    (overtakenRun.drop 4) (overtakenRun.get ⟨3, by decide⟩) rfl
    ⟨_, List.get_mem (overtakenRun.take 3) ⟨1, by decide⟩, by decide⟩).1 (by decide)).1 (by decide)

/-- It is not so that a session stays once its start was acknowledged. -/
theorem acknowledged_start_lost :
    ¬ ∀ (settings : PlaybackSettings) (operations : List Operation) (turns : List Turn)
    (id : SessionId) (pre post : List (Event Tables)) (e : Event Tables),
    ((System.begin settings operations .empty).run Tables.world turns).1 = pre ++ e :: post →
    (∃ a ∈ pre, a.acknowledges id .start = true) →
    (e.before.sessions.find? id ≠ none → e.after.sessions.find? id ≠ none) ∧
      ∀ r, e.ended = some (.get id, r) → (∀ err, r ≠ .error (.store err)) →
      ∃ v, r = .ok (.session v) := by
  intro h
  obtain ⟨_, hget⟩ := h .standard overtaken overtaking ⟨1⟩ (overtakenRun.take 4) []
    (overtakenRun.get ⟨4, by decide⟩) rfl
    ⟨_, List.get_mem (overtakenRun.take 4) ⟨1, by decide⟩, by decide⟩
  obtain ⟨v, hv⟩ := hget (.error (.notFound ⟨1⟩)) rfl fun err herr => by cases herr
  cases hv

end LiveLesson
