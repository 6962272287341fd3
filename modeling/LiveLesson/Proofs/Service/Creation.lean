import LiveLesson.Proofs.Service.Exchanges
import LiveLesson.Proofs.Store.TableHistory

/-!
Creating a session from beginning to end while nothing else happens. Nothing is stored, or what was
stored is taken back, or left behind because it could not be taken back, or kept; what is told, what
is left and what was asked for follow from which of these it is.
-/

namespace LiveLesson

namespace SessionTable

variable {l : Int} {rows : List Session} {s : Session}

theorem delete_added (hfresh : ∀ r ∈ rows, r.id ≠ s.id) :
    delete ⟨l, rows ++ [s]⟩ s.id = (true, ⟨l, rows⟩) := by
  have hkept : (rows.filter fun r => r.id != s.id) = rows :=
    List.filter_eq_self.2 fun r hr => by simpa using hfresh r hr
  rw [delete_eq, List.filter_append, hkept]
  simp

theorem markProvisioned_added (hd : Distinct (rows ++ [s])) (hfresh : ∀ r ∈ rows, r.id ≠ s.id)
    (hnone : s.provisionedAt = none) (now : Timestamp) :
    markProvisioned ⟨l, rows ++ [s]⟩ s.id now =
      (true, ⟨l, rows ++ [{ s with provisionedAt := some now }]⟩) := by
  have hothers : ∀ r ∈ rows, (r.id == s.id && r.provisionedAt.isNone) = false := by
    intro r hr
    simp [hfresh r hr]
  rw [markProvisioned_eq hd, change, List.map_append, map_if_of_forall_not _ hothers]
  simp [hnone]

end SessionTable

namespace Tables

theorem lastId_le_answerAll {t : Tables} (h : t.sessions.WellFormed)
    (calls : List (Surroundings × Call)) :
    t.sessions.lastId ≤ (answerAll calls t).sessions.lastId := by
  induction calls generalizing t with
  | nil => exact Int.le_refl _
  | cons x rest ih =>
    exact Int.le_trans (answer_step h.distinct x.1 x.2).lastId_le (ih (answer_wellFormed h x.1 x.2))

theorem answerAll_append (front back : List (Surroundings × Call)) (t : Tables) :
    answerAll (front ++ back) t = answerAll back (answerAll front t) := by
  induction front generalizing t with
  | nil => rfl
  | cons x rest ih => exact ih _

end Tables

namespace LiveSession

variable {σ : Type} {h : Handler σ} {s s₁ s₂ : σ} {course : CourseId} {key : String} {new : Session}

theorem run_create_unstored (settings : PlaybackSettings) {e : StoreError}
    (hinsert : h (.insertPending course key) s = (.error e, s₁)) :
    let trace := (create settings course key).run h s
    trace.result = .error (.store e) ∧ trace.state = s₁ ∧
      trace.calls = [.insertPending course key] := by
  simp only [create, Program.ask, Program.call_bind, Program.run, hinsert]
  exact ⟨rfl, rfl, rfl⟩

/-- A session whose stream is refused is removed again. Whatever comes of that, the refusal is
told. -/
theorem run_create_refused (settings : PlaybackSettings) {e : MediaError}
    (hinsert : h (.insertPending course key) s = (.ok new, s₁))
    (hmedia : h (.provision key) s₁ = (.error e, s₂)) :
    let trace := (create settings course key).run h s
    trace.result = .error (.provisioning key e) ∧ trace.state = (h (.deleteSession new.id) s₂).2 ∧
      trace.calls = [.insertPending course key, .provision key, .deleteSession new.id] := by
  rcases hdelete : h (.deleteSession new.id) s₂ with ⟨e' | (_ | _), s₃⟩
  all_goals
    simp only [create, rollBack, Program.ask, Program.emit, Program.call_bind, Program.done_bind,
      Program.log_bind, Program.run, hinsert, hmedia, hdelete]
    exact ⟨rfl, rfl, rfl⟩

/-- A session whose stream is accepted is shown as it was stored, whether or not the consent could
be noted. -/
theorem run_create_accepted (settings : PlaybackSettings) {u : Unit}
    (hinsert : h (.insertPending course key) s = (.ok new, s₁))
    (hmedia : h (.provision key) s₁ = (.ok u, s₂)) :
    let trace := (create settings course key).run h s
    trace.result = .ok (new.view settings) ∧ trace.state = (h (.markProvisioned new.id) s₂).2 ∧
      trace.calls = [.insertPending course key, .provision key, .markProvisioned new.id] := by
  rcases hmark : h (.markProvisioned new.id) s₂ with ⟨e' | marked, s₃⟩
  all_goals
    simp only [create, recordProvisioning, Program.ask, Program.emit, Program.call_bind,
      Program.done_bind, Program.log_bind, Program.run, hinsert, hmedia, hmark]
    exact ⟨rfl, rfl, rfl⟩

end LiveSession

/-- A session is to be created over some tables, each call in its surroundings. -/
structure Creation where
  tables : Tables
  around : Call → Tables.Surroundings
  course : CourseId
  key : String

inductive Creation.End where
  | unstored (e : StoreError)
  | takenBack (e : MediaError)
  | leftBehind (e : MediaError)
  /-- The session stays, with the moment at which the media server's consent was noted, if it
  was. -/
  | kept (marked : Option Timestamp)

namespace Creation

variable (c : Creation) (settings : PlaybackSettings)

def trace : Trace (Except SessionError SessionView) Tables :=
  (LiveSession.create settings c.course c.key).run (Tables.handler c.around) c.tables

def id : SessionId := ⟨c.tables.sessions.lastId + 1⟩

def createdAt : Timestamp := (c.around (.insertPending c.course c.key)).now

def session (marked : Option Timestamp) : Session :=
  ⟨c.id, c.course, c.key, .pending, none, none, marked, c.createdAt⟩

structure IsStored : Prop where
  fault : (c.around (.insertPending c.course c.key)).fault = none
  fresh : ∀ s ∈ c.tables.sessions.rows, s.streamKey ≠ c.key

def Meets : End → Prop
  | .unstored e =>
    (c.around (.insertPending c.course c.key)).fault = some e ∨
      (c.around (.insertPending c.course c.key)).fault = none ∧
        (∃ s ∈ c.tables.sessions.rows, s.streamKey = c.key) ∧ e = SessionTable.duplicateKey
  | .takenBack e =>
    c.IsStored ∧ (c.around (.provision c.key)).media = .error e ∧
      (c.around (.deleteSession c.id)).fault = none
  | .leftBehind e =>
    c.IsStored ∧ (c.around (.provision c.key)).media = .error e ∧
      ∃ f, (c.around (.deleteSession c.id)).fault = some f
  | .kept marked =>
    c.IsStored ∧ (c.around (.provision c.key)).media = .ok () ∧
      marked = if (c.around (.markProvisioned c.id)).fault = none then
        some (c.around (.markProvisioned c.id)).now
        else none

/-- What is told: if the session is kept, it is shown without the moments and addresses that it does
not have yet. -/
def result : End → Except SessionError SessionView
  | .unstored e => .error (.store e)
  | .takenBack e | .leftBehind e => .error (.provisioning c.key e)
  | .kept _ => .ok ⟨c.id, c.course, c.key, .pending, none, none, c.createdAt, none⟩

def stateWith (added : List Session) : Tables :=
  { c.tables with sessions := ⟨c.id.value, c.tables.sessions.rows ++ added⟩ }

def state : End → Tables
  | .unstored _ => c.tables
  | .takenBack _ => c.stateWith []
  | .leftBehind _ => c.stateWith [c.session none]
  | .kept marked => c.stateWith [c.session marked]

def calls : End → List Call
  | .unstored _ => [.insertPending c.course c.key]
  | .takenBack _ | .leftBehind _ =>
    [.insertPending c.course c.key, .provision c.key, .deleteSession c.id]
  | .kept _ => [.insertPending c.course c.key, .provision c.key, .markProvisioned c.id]

theorem exists_meets : ∃ w, c.Meets w := by
  cases hinsert : (c.around (.insertPending c.course c.key)).fault with
  | some e => exact ⟨.unstored e, .inl hinsert⟩
  | none =>
    by_cases htaken : ∃ s ∈ c.tables.sessions.rows, s.streamKey = c.key
    · exact ⟨.unstored _, .inr ⟨hinsert, htaken, rfl⟩⟩
    · have hstored : c.IsStored := ⟨hinsert, by simpa using htaken⟩
      cases hmedia : (c.around (.provision c.key)).media with
      | ok u => exact ⟨.kept _, hstored, hmedia, rfl⟩
      | error e =>
        cases hdelete : (c.around (.deleteSession c.id)).fault with
        | none => exact ⟨.takenBack e, hstored, hmedia, hdelete⟩
        | some f => exact ⟨.leftBehind e, hstored, hmedia, f, hdelete⟩

theorem Meets.not_isStored {e : StoreError} (h : c.Meets (.unstored e)) : ¬c.IsStored := by
  rintro ⟨hnone, hfresh⟩
  obtain hfault | ⟨_, ⟨s, hs, htaken⟩, _⟩ := h
  · cases hnone.symm.trans hfault
  · exact hfresh s hs htaken

theorem Meets.unique {w w' : End} (h : c.Meets w) (h' : c.Meets w') : w = w' := by
  cases w with
  | unstored e =>
    cases w' with
    | unstored e' =>
      obtain hfault | ⟨hnone, _, rfl⟩ := h <;> obtain hfault' | ⟨hnone', _, rfl⟩ := h'
      · rw [Option.some.inj (hfault.symm.trans hfault')]
      · cases hfault.symm.trans hnone'
      · cases hnone.symm.trans hfault'
      · rfl
    | takenBack _ => exact absurd h'.1 (not_isStored c h)
    | leftBehind _ => exact absurd h'.1 (not_isStored c h)
    | kept _ => exact absurd h'.1 (not_isStored c h)
  | takenBack e | leftBehind e | kept marked =>
    cases w' with
    | unstored _ => exact absurd h.1 (not_isStored c h')
    | _ => simp_all [Meets]

variable {c}

theorem handler_insertPending (h : c.IsStored) :
    Tables.handler c.around (.insertPending c.course c.key) c.tables =
      (.ok (c.session none), c.stateWith [c.session none]) := by
  rw [Tables.handler_of_no_fault (c := .insertPending c.course c.key) h.fault, Tables.perform,
    SessionTable.insertPending_of_fresh h.fresh]
  rfl

theorem fresh (hwf : c.tables.sessions.WellFormed) :
    ∀ s ∈ c.tables.sessions.rows, s.id ≠ (c.session none).id :=
  fun s hs hid => hwf.fresh s hs (congrArg Id.value hid)

theorem handler_deleteSession (hwf : c.tables.sessions.WellFormed)
    (hdelete : (c.around (.deleteSession c.id)).fault = none) :
    (Tables.handler c.around (.deleteSession c.id) (c.stateWith [c.session none])).2 =
      c.stateWith [] := by
  have hremoved : (c.stateWith [c.session none]).sessions.delete c.id = _ :=
    SessionTable.delete_added (fresh hwf)
  rw [Tables.handler_of_no_fault (c := .deleteSession c.id) hdelete, Tables.perform, hremoved]
  simp only [Tables.withSessions, stateWith, List.append_nil]

theorem handler_markProvisioned (hwf : c.tables.sessions.WellFormed) (hstored : c.IsStored)
    (hmark : (c.around (.markProvisioned c.id)).fault = none) :
    (Tables.handler c.around (.markProvisioned c.id) (c.stateWith [c.session none])).2 =
      c.stateWith [c.session (some (c.around (.markProvisioned c.id)).now)] := by
  have hadded : SessionTable.WellFormed ⟨c.id.value, c.tables.sessions.rows ++ [c.session none]⟩ :=
    SessionTable.Step.wellFormed (.added c.course c.key hstored.fresh) hwf
  have hmarked : (c.stateWith [c.session none]).sessions.markProvisioned c.id _ = _ :=
    SessionTable.markProvisioned_added hadded.distinct (fresh hwf) rfl
      (c.around (.markProvisioned c.id)).now
  rw [Tables.handler_of_no_fault (c := .markProvisioned c.id) hmark, Tables.perform, hmarked]
  rfl

theorem trace_of_meets (hwf : c.tables.sessions.WellFormed) {w : End} (h : c.Meets w) :
    (c.trace settings).result = c.result w ∧ (c.trace settings).state = c.state w ∧
      (c.trace settings).calls = c.calls w := by
  have hmedia : ∀ {o t}, (c.around (.provision c.key)).media = o →
      Tables.handler c.around (.provision c.key) t = (o, t) := fun h => by
    rw [← h]
    rfl
  cases w with
  | unstored e =>
    refine LiveSession.run_create_unstored settings ?_
    obtain hfault | ⟨hnone, htaken, rfl⟩ := h
    · exact Tables.handler_of_fault (c := .insertPending c.course c.key) hfault c.tables
    · rw [Tables.handler_of_no_fault (c := .insertPending c.course c.key) hnone, Tables.perform,
        SessionTable.insertPending_of_taken htaken]
      rfl
  | takenBack e =>
    obtain ⟨hstored, hrefused, hdelete⟩ := h
    obtain ⟨hresult, hstate, hcalls⟩ :=
      LiveSession.run_create_refused settings (handler_insertPending hstored) (hmedia hrefused)
    exact ⟨hresult, hstate.trans (handler_deleteSession hwf hdelete), hcalls⟩
  | leftBehind e =>
    obtain ⟨hstored, hrefused, f, hdelete⟩ := h
    obtain ⟨hresult, hstate, hcalls⟩ :=
      LiveSession.run_create_refused settings (handler_insertPending hstored) (hmedia hrefused)
    have hkept := Tables.handler_of_fault (c := .deleteSession c.id) hdelete
      (c.stateWith [c.session none])
    exact ⟨hresult, hstate.trans (congrArg Prod.snd hkept), hcalls⟩
  | kept marked =>
    obtain ⟨hstored, haccepted, rfl⟩ := h
    obtain ⟨hresult, hstate, hcalls⟩ :=
      LiveSession.run_create_accepted settings (handler_insertPending hstored) (hmedia haccepted)
    refine ⟨hresult, hstate.trans ?_, hcalls⟩
    cases hmark : (c.around (.markProvisioned c.id)).fault with
    | none =>
      rw [if_pos rfl]
      exact handler_markProvisioned hwf hstored hmark
    | some f =>
      rw [if_neg (by simp)]
      exact congrArg Prod.snd (Tables.handler_of_fault (c := .markProvisioned c.id) hmark _)

end Creation

/-- Creating a session, over any tables that calls can lead to, ends in exactly one of four ways: it
is not stored, since the call fails or the key is taken; or its stream is refused and it is taken
back; or its stream is refused and it stays behind, pending, since it cannot be taken back; or it is
kept, marked as provisioned exactly if that call does not fail. Its identifier was never used
before. -/
theorem creation_ends (settings : PlaybackSettings) (calls : List (Tables.Surroundings × Call))
    (around : Call → Tables.Surroundings) (course : CourseId) (key : String) :
    let c : Creation := ⟨Tables.answerAll calls .empty, around, course, key⟩
    (∀ front back, calls = front ++ back → ∀ s ∈ (Tables.answerAll front .empty).sessions.rows,
      s.id ≠ c.id) ∧
      ∃! w, c.Meets w ∧ (c.trace settings).result = c.result w ∧
      (c.trace settings).state = c.state w ∧
        (c.trace settings).calls = c.calls w := by
  intro c
  have hempty : Tables.empty.sessions.WellFormed := SessionTable.empty_wellFormed
  have hwf : c.tables.sessions.WellFormed := Tables.answerAll_wellFormed hempty calls
  refine ⟨?_, ?_⟩
  · rintro front back rfl s hs hid
    have hfront := Tables.answerAll_wellFormed hempty front
    have hle := Tables.lastId_le_answerAll hfront back
    have hbound := (hfront.bounds s hs).2
    rw [hid] at hbound
    simp only [c, Creation.id, Tables.answerAll_append] at hbound
    omega
  · obtain ⟨w, hw⟩ := c.exists_meets
    exact ⟨w, ⟨hw, Creation.trace_of_meets settings hwf hw⟩,
      fun w' hw' => Creation.Meets.unique c hw'.1 hw⟩

end LiveLesson
