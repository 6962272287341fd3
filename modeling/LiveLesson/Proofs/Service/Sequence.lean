import LiveLesson.Proofs.Service.Exchanges
import LiveLesson.Proofs.Session.View
import LiveLesson.Proofs.Store.Fate

/-!
Operations one after the other, each run to its end before the next one begins. A program that obeys
a protocol and is run to its end had exchanges that the protocol allows. An operation that runs
alone removes no session but the one it added itself, so what was there before it is there
afterwards, perhaps further on in its life.
-/

namespace LiveLesson

variable {σ : Type}

/-- Exchanges with a handler, one after the other, and the states between which they lie. -/
inductive Exchanged (h : Handler σ) : σ → List Exchange → σ → Prop
  | nil (s : σ) : Exchanged h s [] s
  | cons {s s' : σ} {xs : List Exchange} (c : Call) : Exchanged h (h c s).2 xs s' →
    Exchanged h s (⟨c, (h c s).1⟩ :: xs) s'

theorem Exchanged.head {h : Handler σ} {s s' : σ} {c : Call} {o : c.Outcome} {xs : List Exchange}
    (hx : Exchanged h s (⟨c, o⟩ :: xs) s') : (h c s).1 = o ∧ Exchanged h (h c s).2 xs s' := by
  generalize hys : (⟨c, o⟩ :: xs : List Exchange) = ys at hx
  cases hx with
  | nil => cases hys
  | cons c' hrest =>
    cases hys
    exact ⟨rfl, hrest⟩

theorem Exchanged.eq_of_nil {h : Handler σ} {s s' : σ} (hx : Exchanged h s [] s') : s' = s := by
  cases hx
  rfl

theorem Program.exchanged_run {α : Type} (h : Handler σ) (p : Program α) (s : σ) :
    Exchanged h s (p.exchanges h s) (p.run h s).state := by
  induction p generalizing s with
  | done a => exact .nil s
  | log e p ih => exact ih s
  | call c k ih => exact .cons c (ih (h c s).1 (h c s).2)

theorem Program.Obeys.run {α : Type} {may : List Exchange → Call → Prop}
    {ends : List Exchange → α → Prop} {xs : List Exchange} {p : Program α}
    (hp : p.Obeys may ends xs) (h : Handler σ) (s : σ) :
    ∃ ys, Exchanged h s ys (p.run h s).state ∧ ends (xs ++ ys) (p.run h s).result :=
  ⟨p.exchanges h s, p.exchanged_run h s, hp.exchanges h s⟩

structure Order where
  operation : Operation
  around : Call → Tables.Surroundings

structure Served where
  order : Order
  before : Tables
  after : Tables
  outcome : Operation.Outcome

def Order.serve (settings : PlaybackSettings) (o : Order) (t : Tables) : Served :=
  let trace := (o.operation.program settings).run (Tables.handler o.around) t
  ⟨o, t, trace.state, trace.result⟩

def serveAll (settings : PlaybackSettings) (t : Tables) : List Order → List Served × Tables
  | [] => ([], t)
  | o :: rest =>
    let d := o.serve settings t
    let (served, t) := serveAll settings d.after rest
    (d :: served, t)

theorem serveAll_append (settings : PlaybackSettings) (t : Tables) (front back : List Order) :
    serveAll settings t (front ++ back) =
      ((serveAll settings t front).1 ++ (serveAll settings (serveAll settings t front).2 back).1,
        (serveAll settings (serveAll settings t front).2 back).2) := by
  induction front generalizing t with
  | nil => rfl
  | cons o rest ih => simp [serveAll, ih]

theorem length_serveAll (settings : PlaybackSettings) (t : Tables) (orders : List Order) :
    (serveAll settings t orders).1.length = orders.length := by
  induction orders generalizing t with
  | nil => rfl
  | cons o rest ih => simp [serveAll, ih]

theorem Operation.Ends.deleted {settings : PlaybackSettings} {o : Operation} {xs : List Exchange}
    {r : Operation.Outcome} (h : o.Ends settings xs r) {x : Exchange} (hx : x ∈ xs) {id : SessionId}
    (hdelete : x.call = .deleteSession id) :
    ∃ course key s rest, s.id = id ∧ xs = ⟨.insertPending course key, .ok s⟩ :: rest := by
  cases h with
  | rolledBack =>
    simp only [List.mem_cons, List.not_mem_nil, or_false] at hx
    rcases hx with rfl | rfl | rfl
    · cases hdelete
    · cases hdelete
    · cases hdelete
      exact ⟨_, _, _, _, rfl, rfl⟩
  | created =>
    simp only [List.mem_cons, List.not_mem_nil, or_false] at hx
    rcases hx with rfl | rfl | rfl <;> cases hdelete
  | _ =>
    obtain rfl := List.mem_singleton.1 hx
    cases hdelete

namespace Tables

variable {t t' : Tables} {around : Call → Surroundings} {xs : List Exchange} {id : SessionId}
  {s : Session}

theorem answer_insertPending {a : Surroundings} {course : CourseId} {key : String}
    (h : (answer a (.insertPending course key) t).1 = .ok s) :
    s = Session.pending ⟨t.sessions.lastId + 1⟩ course key a.now ∧
      (answer a (.insertPending course key) t).2.sessions =
        ⟨t.sessions.lastId + 1, t.sessions.rows ++ [s]⟩ := by
  unfold answer at h ⊢
  cases hfault : fault? a (.insertPending course key) with
  | some e =>
    rw [hfault] at h
    cases h
  | none =>
    rw [hfault] at h
    by_cases htaken : ∃ r ∈ t.sessions.rows, r.streamKey = key
    · simp only [perform, SessionTable.insertPending_of_taken htaken] at h
      cases h
    · have hfresh : ∀ r ∈ t.sessions.rows, r.streamKey ≠ key := by simpa using htaken
      simp only [perform, SessionTable.insertPending_of_fresh hfresh] at h ⊢
      obtain rfl := Except.ok.inj h
      exact ⟨rfl, rfl⟩

theorem wellFormed_of_exchanged (hwf : t.sessions.WellFormed)
    (hx : Exchanged (handler around) t xs t') : t'.sessions.WellFormed := by
  induction hx with
  | nil => exact hwf
  | cons c _ ih => exact ih (answer_wellFormed hwf _ c)

theorem kept_of_exchanged (hwf : t.sessions.WellFormed) (hx : Exchanged (handler around) t xs t')
    (hs : t.sessions.find? id = some s) (hnot : ∀ x ∈ xs, x.call ≠ .deleteSession id) :
    ∃ s', t'.sessions.find? id = some s' ∧ s.Continues s' := by
  induction hx generalizing s with
  | nil => exact ⟨s, hs, Session.Continues.refl s⟩
  | @cons t t'' xs c _ ih =>
    obtain ⟨hc, hrest⟩ := List.forall_mem_cons.1 hnot
    have hfate := answer_fate hwf (around c) c id
    have hstep := answer_step hwf.distinct (around c) c
    have hwf' := answer_wellFormed hwf (around c) c
    rw [hs] at hfate
    cases hfound : (answer (around c) c t).2.sessions.find? id with
    | none => exact absurd (congrArg Exchange.call (hfate.gone_iff.1 hfound)) hc
    | some r =>
      have hid := (SessionTable.id_of_find? hfound).trans (SessionTable.id_of_find? hs).symm
      have hnext := hstep.continues hwf (SessionTable.mem_of_find? hs)
        (SessionTable.mem_of_find? hfound) hid
      obtain ⟨s', hs', hlater⟩ := ih hwf' hfound hrest
      exact ⟨s', hs', hnext.trans hlater⟩

end Tables

namespace Order

variable {t : Tables} {id : SessionId} {s : Session}

theorem serve_exchanged (settings : PlaybackSettings) (o : Order) (t : Tables) :
    ∃ xs, Exchanged (Tables.handler o.around) t xs (o.serve settings t).after ∧
      o.operation.Ends settings xs (o.serve settings t).outcome :=
  (Operation.program_obeys settings o.operation).run (Tables.handler o.around) t

theorem serve_wellFormed (settings : PlaybackSettings) (hwf : t.sessions.WellFormed) (o : Order) :
    (o.serve settings t).after.sessions.WellFormed := by
  obtain ⟨xs, hx, _⟩ := serve_exchanged settings o t
  exact Tables.wellFormed_of_exchanged hwf hx

/-- The session that an order adds has an identifier of its own, so taking it back does no harm to
the others. -/
theorem serve_keeps (settings : PlaybackSettings) (hwf : t.sessions.WellFormed) (o : Order)
    (hs : t.sessions.find? id = some s) :
    ∃ s', (o.serve settings t).after.sessions.find? id = some s' ∧ s.Continues s' := by
  obtain ⟨xs, hx, hends⟩ := serve_exchanged settings o t
  refine Tables.kept_of_exchanged hwf hx hs fun x hmem hdelete => ?_
  -- Only a creation takes a session back, and the one that it added has a number that was not given
  -- out before.
  obtain ⟨course, key, r, rest, hr, rfl⟩ := hends.deleted hmem hdelete
  obtain ⟨hnew, _⟩ := Tables.answer_insertPending hx.head.1
  have hbounds := hwf.bounds s (SessionTable.mem_of_find? hs)
  have hid : s.id = ⟨t.sessions.lastId + 1⟩ := by
    rw [SessionTable.id_of_find? hs, ← hr, hnew]
    rfl
  rw [hid] at hbounds
  simp only at hbounds
  omega

end Order

section Sequence

variable {t : Tables} {id : SessionId} {s : Session}

theorem serveAll_wellFormed (settings : PlaybackSettings) (hwf : t.sessions.WellFormed)
    (orders : List Order) : (serveAll settings t orders).2.sessions.WellFormed := by
  induction orders generalizing t with
  | nil => exact hwf
  | cons o rest ih => exact ih (o.serve_wellFormed settings hwf)

theorem serveAll_keeps (settings : PlaybackSettings) (hwf : t.sessions.WellFormed)
    (orders : List Order) (hs : t.sessions.find? id = some s) :
    ∃ s', (serveAll settings t orders).2.sessions.find? id = some s' ∧ s.Continues s' := by
  induction orders generalizing t s with
  | nil => exact ⟨s, hs, Session.Continues.refl s⟩
  | cons o rest ih =>
    obtain ⟨r, hr, hnext⟩ := o.serve_keeps settings hwf hs
    obtain ⟨s', hs', hlater⟩ := ih (o.serve_wellFormed settings hwf) hr
    exact ⟨s', hs', hnext.trans hlater⟩

end Sequence

end LiveLesson
