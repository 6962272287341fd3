import LiveLesson.Proofs.Service.Sequence
import LiveLesson.Proofs.Store.TableHistory

/-!
Events that the media server delivers again. Once an event was applied, the session that holds its
key is past the status that the event leaves, and it stays there: it is not removed, no other
session gets the key, and its status does not go back. So whoever delivers the event later is told
that it is ignored, and nothing else in the run changes.
-/

namespace LiveLesson

namespace SessionTable

variable {t : SessionTable} {key : String} {tr : Transition}

/-- No session under the key is in the status that the transition leaves. -/
def IsPast (key : String) (tr : Transition) (t : SessionTable) : Prop :=
  ∀ s ∈ t.rows, s.streamKey = key → s.status ≠ tr.source

theorem transitionByKey_of_isPast (h : t.IsPast key tr) (now : Timestamp) :
    t.transitionByKey key tr now = (false, t) := by
  have hnone : updateFirst (fun s => s.streamKey == key && s.status == tr.source)
      (fun s => s.after tr now) t.rows =
      none := by
    refine updateFirst_eq_none.2 fun s hs => ?_
    by_cases hkey : s.streamKey = key
    · simp [hkey, h s hs hkey]
    · simp [hkey]
  rw [transitionByKey, transition, hnone]
  rfl

theorem isPast_transitionByKey (h : Distinct t.rows) (key : String) (tr : Transition)
    (now : Timestamp) : (t.transitionByKey key tr now).2.IsPast key tr := by
  rw [transitionByKey_eq h]
  intro s' hs' hkey
  obtain ⟨s, hs, rfl⟩ := List.mem_map.1 hs'
  by_cases hp : (s.streamKey == key && s.status == tr.source) = true
  · rw [if_pos hp, s.after_status]
    exact tr.source_ne_target.symm
  · rw [if_neg hp] at hkey ⊢
    intro hsource
    exact hp (by simp [hkey, hsource])

/-- One session that is past the status is enough, as no other one has its key. -/
theorem isPast_of_find? (h : Distinct t.rows) {id : SessionId} {s : Session}
    (hs : t.find? id = some s) (htarget : tr.target ≤ s.status) : t.IsPast s.streamKey tr := by
  intro r hr hkey
  obtain rfl := h.eq_of_key hr (mem_of_find? hs) hkey
  exact Status.ne_source_of_target_le htarget

theorem target_of_transitionByKey (h : Distinct t.rows) {now : Timestamp}
    (hmoved : (t.transitionByKey key tr now).1 = true) :
    ∃ id s, (t.transitionByKey key tr now).2.find? id = some s ∧ s.streamKey = key ∧
    s.status = tr.target := by
  rw [transitionByKey_eq h] at hmoved ⊢
  rcases change_cases h (h.atMostOne_key key _) (fun s => s.after_id tr now) with
    ⟨s, _, hp, _, hfind⟩ | ⟨_, hsame⟩
  · simp only [Bool.and_eq_true, beq_iff_eq] at hp
    refine ⟨s.id, s.after tr now, ?_, ?_, s.after_status tr now⟩
    · rw [hfind, if_pos rfl]
    · rw [s.after_streamKey, hp.1]
  · rw [hsame] at hmoved
    cases hmoved

end SessionTable

namespace Order

variable {settings : PlaybackSettings} {t : Tables} {o : Order} {key : String} {e : StreamEvent}

theorem serve_event (ho : o.operation = .event key e)
    (hstore : (o.around (.transitionByKey key e.transition)).fault = none) :
    let moved :=
      t.sessions.transitionByKey key e.transition (o.around (.transitionByKey key e.transition)).now
    o.serve settings t = ⟨o, t, { t with sessions := moved.2 },
      .ok (.callback (if moved.1 then .applied e.transition else .ignored))⟩ := by
  obtain ⟨operation, around⟩ := o
  obtain rfl : operation = .event key e := ho
  intro moved
  have hcall : Tables.handler around (.transitionByKey key e.transition) t =
      t.withSessions moved := by
    simp only [Tables.handler, Tables.answer, Tables.fault?]
    rw [hstore]
    rfl
  obtain ⟨hresult, hstate⟩ := Program.run_of_next? (Tables.handler around)
    (p := (Operation.event key e).program settings) (c := .transitionByKey key e.transition) rfl t
  rw [hcall] at hresult hstate
  change Served.mk _ t _ _ = _
  rw [hresult, hstate]
  clear_value moved
  obtain ⟨_ | _, sessions⟩ := moved <;> rfl

theorem serve_event_of_fault {err : StoreError} (ho : o.operation = .event key e)
    (hstore : (o.around (.transitionByKey key e.transition)).fault = some err) :
    o.serve settings t = ⟨o, t, t, .error (.store err)⟩ := by
  obtain ⟨operation, around⟩ := o
  obtain rfl : operation = .event key e := ho
  have hcall : Tables.handler around (.transitionByKey key e.transition) t = (.error err, t) := by
    simp only [Tables.handler, Tables.answer, Tables.fault?]
    rw [hstore]
  obtain ⟨hresult, hstate⟩ := Program.run_of_next? (Tables.handler around)
    (p := (Operation.event key e).program settings) (c := .transitionByKey key e.transition) rfl t
  rw [hcall] at hresult hstate
  change Served.mk _ t _ _ = _
  rw [hresult, hstate]
  rfl

theorem serve_event_of_isPast (ho : o.operation = .event key e)
    (hstore : (o.around (.transitionByKey key e.transition)).fault = none)
    (hpast : t.sessions.IsPast key e.transition) :
    o.serve settings t = ⟨o, t, t, .ok (.callback .ignored)⟩ := by
  rw [serve_event ho hstore, SessionTable.transitionByKey_of_isPast hpast]
  rfl

theorem target_of_applied (hwf : t.sessions.WellFormed) (ho : o.operation = .event key e)
    (happlied : (o.serve settings t).outcome = .ok (.callback (.applied e.transition))) :
    ∃ id s, (o.serve settings t).after.sessions.find? id = some s ∧ s.streamKey = key ∧
      s.status = e.transition.target := by
  have hstore : (o.around (.transitionByKey key e.transition)).fault = none := by
    cases hfault : (o.around (.transitionByKey key e.transition)).fault with
    | none => rfl
    | some err =>
      rw [serve_event_of_fault ho hfault] at happlied
      cases happlied
  rw [serve_event ho hstore] at happlied ⊢
  refine SessionTable.target_of_transitionByKey hwf.distinct ?_
  by_contra hmoved
  simp [hmoved] at happlied

theorem serve_event_twice (hwf : t.sessions.WellFormed) {again : Order}
    (ho : o.operation = .event key e) (hagain : again.operation = .event key e)
    (hstore : (o.around (.transitionByKey key e.transition)).fault = none) :
    let once := (o.serve settings t).after
    (again.serve settings once).after = once ∧
      ((again.around (.transitionByKey key e.transition)).fault = none →
        (again.serve settings once).outcome = .ok (.callback .ignored)) := by
  intro once
  have hpast : once.sessions.IsPast key e.transition := by
    have honce : once.sessions = (t.sessions.transitionByKey key e.transition
        (o.around (.transitionByKey key e.transition)).now).2 := by
      simp only [once, serve_event ho hstore]
    rw [honce]
    exact SessionTable.isPast_transitionByKey hwf.distinct key e.transition _
  cases hfault : (again.around (.transitionByKey key e.transition)).fault with
  | some err => simp [serve_event_of_fault hagain hfault]
  | none => simp [serve_event_of_isPast hagain hfault hpast]

end Order

/-- Once an event was applied in a sequence of orders, it cannot be applied in the tables at the end
of it. -/
theorem isPast_serveAll {settings : PlaybackSettings} {t : Tables} (hwf : t.sessions.WellFormed)
    {orders : List Order} {d : Served} (hd : d ∈ (serveAll settings t orders).1) {key : String}
    {e : StreamEvent} (ho : d.order.operation = .event key e)
    (happlied : d.outcome = .ok (.callback (.applied e.transition))) :
    (serveAll settings t orders).2.sessions.IsPast key e.transition := by
  induction orders generalizing t with
  | nil => simp [serveAll] at hd
  | cons o rest ih =>
    have hwf' := o.serve_wellFormed settings hwf
    rcases List.mem_cons.1 hd with rfl | hd
    · -- The session that the event moved is found at the end, at least as far on in its life.
      obtain ⟨id, s, hs, rfl, hstatus⟩ := Order.target_of_applied hwf ho happlied
      obtain ⟨s', hs', hlater⟩ := serveAll_keeps settings hwf' rest hs
      have hwf'' := serveAll_wellFormed settings hwf' rest
      have hle := hlater.status_le (hwf'.coherent s (SessionTable.mem_of_find? hs))
        (hwf''.coherent s' (SessionTable.mem_of_find? hs'))
      rw [hstatus] at hle
      rw [← hlater.streamKey]
      exact SessionTable.isPast_of_find? hwf''.distinct hs' hle
    · exact ih hwf' hd

/-- Delivering an event again is harmless. If it was applied in the first orders of a sequence and
is delivered once more after them, without a failure, then the extra delivery is ignored and leaves
the tables alone, and all other orders are served exactly as without it. And in whatever state calls
have left the tables, a second delivery right after a first one that met no failure changes nothing,
and is ignored if it meets none itself. -/
theorem redelivery_harmless (settings : PlaybackSettings) (key : String) (e : StreamEvent) :
    (∀ (front back : List Order) (extra : Order), extra.operation = .event key e →
      (extra.around (.transitionByKey key e.transition)).fault = none →
      (∃ d ∈ (serveAll settings .empty front).1, d.order.operation = .event key e ∧
        d.outcome = .ok (.callback (.applied e.transition))) →
      ∃ earlier later t last, earlier.length = front.length ∧
        serveAll settings .empty (front ++ back) = (earlier ++ later, last) ∧
        serveAll settings .empty (front ++ extra :: back) =
          (earlier ++ ⟨extra, t, t, .ok (.callback .ignored)⟩ :: later, last)) ∧
    ∀ (calls : List (Tables.Surroundings × Call)) (first again : Order), first.operation =
      .event key e →
      again.operation = .event key e →
      (first.around (.transitionByKey key e.transition)).fault = none →
      let once := (first.serve settings (Tables.answerAll calls .empty)).after
      (again.serve settings once).after = once ∧
        ((again.around (.transitionByKey key e.transition)).fault = none →
          (again.serve settings once).outcome = .ok (.callback .ignored)) := by
  have hempty : Tables.empty.sessions.WellFormed := SessionTable.empty_wellFormed
  constructor
  · rintro front back extra hextra hstore ⟨d, hd, ho, happlied⟩
    have hpast := isPast_serveAll hempty hd ho happlied
    refine ⟨_, _, (serveAll settings .empty front).2, _, length_serveAll settings .empty front,
      serveAll_append settings .empty front back, ?_⟩
    rw [serveAll_append, serveAll, Order.serve_event_of_isPast hextra hstore hpast]
  · intro calls first again hfirst hagain hstore
    exact Order.serve_event_twice (Tables.answerAll_wellFormed hempty calls) hfirst hagain hstore

/-- A publisher comes, and the media server says so again after the session has ended. -/
theorem late_redelivery_harmless :
    let calm : Call → Tables.Surroundings := fun _ => ⟨⟨0, 0⟩, none, .ok ()⟩
    let front : List Order :=
      [⟨.create ⟨1⟩ "k", calm⟩, ⟨.event "k" .start, calm⟩, ⟨.finish ⟨1⟩, calm⟩]
    let back : List Order := [⟨.get ⟨1⟩, calm⟩]
    (serveAll .standard .empty (front ++ ⟨.event "k" .start, calm⟩ :: back)).2 =
      (serveAll .standard .empty (front ++ back)).2 := by
  intro calm front back
  obtain ⟨earlier, later, t, last, _, hwithout, hwith⟩ :=
    (redelivery_harmless .standard "k" .start).1 front back
    ⟨.event "k" .start, calm⟩ rfl rfl
    ⟨_, List.getElem_mem (by decide : 1 < (serveAll .standard .empty front).1.length), rfl, rfl⟩
  rw [hwithout, hwith]

end LiveLesson
