import LiveLesson.Proofs.Service.Sequence

/-!
What clients see of sessions when operations are served one after the other. Every view that is
answered is the view of a session in the table at that moment, so it shows one of the three proper
pictures, and any two views of one session follow its life.
-/

namespace LiveLesson

namespace Tables

variable {t : Tables} {a : Surroundings} {id : SessionId} {s : Session}

theorem found_of_insertPending (hwf : t.sessions.WellFormed) {course : CourseId} {key : String}
    (h : (answer a (.insertPending course key) t).1 = .ok s) :
    (answer a (.insertPending course key) t).2.sessions.find? s.id = some s := by
  have hwf' := answer_wellFormed hwf a (.insertPending course key)
  refine (SessionTable.find?_eq_some_iff hwf'.distinct).2 ⟨?_, rfl⟩
  rw [(answer_insertPending h).2]
  exact List.mem_append_right _ (List.mem_singleton_self s)

theorem view_markProvisioned (hwf : t.sessions.WellFormed) (hs : t.sessions.find? id = some s)
    (settings : PlaybackSettings) :
    ∃ s', (answer a (.markProvisioned id) t).2.sessions.find? id = some s' ∧
      s'.view settings = s.view settings := by
  have hfate := answer_fate hwf a (.markProvisioned id) id
  rw [hs] at hfate
  generalize hx : (⟨.markProvisioned id, (answer a (.markProvisioned id) t).1⟩ : Exchange) =
    x at hfate
  generalize (answer a (.markProvisioned id) t).2.sessions.find? id = o at hfate
  cases hfate with
  | kept _ _ => exact ⟨s, rfl, rfl⟩
  | provisioned _ => exact ⟨_, rfl, rfl⟩
  | _ => cases hx

theorem answer_findSession_eq (id : SessionId) :
    answer a (.findSession id) t = (a.fault.elim (.ok (t.sessions.find? id)) .error, t) := by
  unfold answer fault?
  cases a.fault <;> rfl

end Tables

namespace Order

variable {settings : PlaybackSettings} {t : Tables} {o : Order} {id : SessionId}

theorem serve_get (settings : PlaybackSettings) (t : Tables) (ho : o.operation = .get id) :
    (o.serve settings t).after = t ∧ (o.serve settings t).outcome =
      (o.around (.findSession id)).fault.elim
        ((t.sessions.find? id).elim (.error (.notFound id)) fun s =>
          .ok (.session (s.view settings)))
        fun e => .error (.store e) := by
  obtain ⟨operation, around⟩ := o
  obtain rfl : operation = .get id := ho
  have hcall := Tables.answer_findSession_eq (t := t) (a := around (.findSession id)) id
  obtain ⟨hresult, hstate⟩ := Program.run_of_next? (Tables.handler around)
    (p := (Operation.get id).program settings) (c := .findSession id) rfl t
  simp only [Tables.handler, hcall] at hresult hstate
  refine ⟨hstate.trans ?_, hresult.trans ?_⟩ <;>
  · cases (around (.findSession id)).fault with
    | some e => rfl
    | none => cases t.sessions.find? id <;> rfl

/-- A view that is answered is the view of a session that is in the table when the answer is
given. -/
theorem serve_view (hwf : t.sessions.WellFormed) {v : SessionView}
    (hv : (o.serve settings t).outcome = .ok (.session v)) :
    ∃ s, (o.serve settings t).after.sessions.find? v.id = some s ∧ v = s.view settings := by
  obtain ⟨xs, hx, hends⟩ := serve_exchanged settings o t
  rw [hv] at hends
  obtain ⟨operation, around⟩ := o
  dsimp only at hends
  -- Of all the ways in which operations end only two show a session.
  cases hends with
  | @created course key s =>
    obtain ⟨hadded, hx⟩ := hx.head
    obtain ⟨_, hx⟩ := hx.head
    obtain ⟨_, hx⟩ := hx.head
    have hwf' := Tables.answer_wellFormed hwf (around (.insertPending course key))
      (.insertPending course key)
    have hs := Tables.found_of_insertPending hwf hadded
    obtain ⟨s', hs', hview⟩ :=
      Tables.view_markProvisioned (a := around (.markProvisioned s.id)) hwf' hs settings
    rw [hx.eq_of_nil]
    exact ⟨s', hs', hview.symm⟩
  | @found id s =>
    obtain ⟨hafter, houtcome⟩ := serve_get (o := ⟨.get id, around⟩) settings t rfl
    rw [hv] at houtcome
    rw [hafter]
    cases hfault : (around (.findSession id)).fault with
    | some e => simp [hfault] at houtcome
    | none =>
      cases hs : t.sessions.find? id with
      | none => simp [hfault, hs] at houtcome
      | some r =>
        have hview : s.view settings = r.view settings := by simpa [hfault, hs] using houtcome
        have hid : (s.view settings).id = id := by
          rw [hview]
          exact SessionTable.id_of_find? hs
        exact ⟨r, by rw [hid, hs], hview⟩

end Order

/-- Of two orders that showed the same session the first one showed an earlier state of it. -/
def Served.InOrder (a b : Served) : Prop :=
  ∀ v w, a.outcome = .ok (.session v) → b.outcome = .ok (.session w) → v.id = w.id → v.Precedes w

/-- Whatever was shown of a session, the table holds the session, further on in its life. -/
structure Seen (settings : PlaybackSettings) (past : List Served) (t : Tables) : Prop where
  wellFormed : t.sessions.WellFormed
  later : ∀ d ∈ past, ∀ v, d.outcome = .ok (.session v) →
    ∃ s, t.sessions.find? v.id = some s ∧ v.Precedes (s.view settings)
  ordered : past.Pairwise Served.InOrder

namespace Seen

variable {settings : PlaybackSettings} {past : List Served} {t : Tables}

theorem begin (settings : PlaybackSettings) : Seen settings [] .empty where
  wellFormed := SessionTable.empty_wellFormed
  later := by simp
  ordered := List.Pairwise.nil

theorem later_serve (h : Seen settings past t) (o : Order) {d : Served} (hd : d ∈ past)
    {v : SessionView} (hv : d.outcome = .ok (.session v)) :
    ∃ s, (o.serve settings t).after.sessions.find? v.id = some s ∧
    v.Precedes (s.view settings) := by
  have hwf' := o.serve_wellFormed settings h.wellFormed
  obtain ⟨s, hs, hprecedes⟩ := h.later d hd v hv
  obtain ⟨s', hs', hnext⟩ := o.serve_keeps settings h.wellFormed hs
  have hcoherent := h.wellFormed.coherent s (SessionTable.mem_of_find? hs)
  have hcoherent' := hwf'.coherent s' (SessionTable.mem_of_find? hs')
  exact ⟨s', hs', hprecedes.trans (hnext.precedes hcoherent hcoherent' settings)⟩

theorem step (h : Seen settings past t) (o : Order) :
    Seen settings (past ++ [o.serve settings t]) (o.serve settings t).after where
  wellFormed := o.serve_wellFormed settings h.wellFormed
  later := by
    intro d hd v hv
    rcases List.mem_append.1 hd with hd | hd
    · exact h.later_serve o hd hv
    · obtain rfl := List.mem_singleton.1 hd
      obtain ⟨s, hs, rfl⟩ := Order.serve_view h.wellFormed hv
      have hcoherent := (o.serve_wellFormed settings h.wellFormed).coherent s
        (SessionTable.mem_of_find? hs)
      exact ⟨s, hs, (Session.Continues.refl s).precedes hcoherent hcoherent settings⟩
  ordered := by
    refine List.pairwise_append.2 ⟨h.ordered, List.pairwise_singleton _ _,
      fun a ha b hb v w hv hw hid => ?_⟩
    obtain rfl := List.mem_singleton.1 hb
    obtain ⟨s, hs, hprecedes⟩ := h.later_serve o ha hv
    obtain ⟨s', hs', rfl⟩ := Order.serve_view h.wellFormed hw
    rw [hid, hs'] at hs
    exact Option.some.inj hs ▸ hprecedes

theorem run (h : Seen settings past t) (orders : List Order) :
    Seen settings (past ++ (serveAll settings t orders).1) (serveAll settings t orders).2 := by
  induction orders generalizing past t with
  | nil => simpa [serveAll] using h
  | cons o rest ih => simpa [serveAll] using ih (h.step o)

end Seen

theorem served_of_mem_serveAll {settings : PlaybackSettings} {t : Tables}
    (hwf : t.sessions.WellFormed) {orders : List Order} {d : Served}
    (hd : d ∈ (serveAll settings t orders).1) :
    d.before.sessions.WellFormed ∧ d = d.order.serve settings d.before := by
  induction orders generalizing t with
  | nil => simp [serveAll] at hd
  | cons o rest ih =>
    rcases List.mem_cons.1 hd with rfl | hd
    · exact ⟨hwf, rfl⟩
    · exact ih (o.serve_wellFormed settings hwf) hd

theorem Served.get_iff {settings : PlaybackSettings} {d : Served}
    (hd : d = d.order.serve settings d.before) (hwf : d.before.sessions.WellFormed) {id : SessionId}
    (hget : d.order.operation = .get id)
    (hstore : (d.order.around (.findSession id)).fault = none) :
    (d.outcome = .error (.notFound id) ↔ ∀ s ∈ d.before.sessions.rows, s.id ≠ id) ∧
      ∀ s ∈ d.before.sessions.rows, s.id = id → d.outcome = .ok (.session (s.view settings)) := by
  obtain ⟨_, houtcome⟩ := Order.serve_get settings d.before hget
  rw [← hd, hstore] at houtcome
  rw [houtcome]
  constructor
  · rw [← SessionTable.find?_eq_none_iff]
    cases d.before.sessions.find? id <;> simp
  · intro s hs hid
    rw [(SessionTable.find?_eq_some_iff hwf.distinct).2 ⟨hs, hid⟩]
    rfl

/-- In any sequence of orders from the empty tables, whatever failures they meet: every view shows a
pending, a live or an ended session with the moments and addresses of that status; a reader whom the
store answers is told that there is no such session exactly if there is none, and is shown it
otherwise; and of two views of one session the later one has the same names, a status that has not
gone back, and the moments of the earlier one. -/
theorem views_follow_life (settings : PlaybackSettings) (orders : List Order) :
    let steps := (serveAll settings .empty orders).1
    (∀ d ∈ steps, ∀ v, d.outcome = .ok (.session v) → v.IsProper settings) ∧
    (∀ d ∈ steps, ∀ id, d.order.operation = .get id →
      (d.order.around (.findSession id)).fault = none →
      (d.outcome = .error (.notFound id) ↔ ∀ s ∈ d.before.sessions.rows, s.id ≠ id) ∧
      ∀ s ∈ d.before.sessions.rows, s.id = id → d.outcome = .ok (.session (s.view settings))) ∧
    steps.Pairwise fun a b => ∀ v w, a.outcome = .ok (.session v) → b.outcome = .ok (.session w) →
      v.id = w.id → v.Precedes w := by
  intro steps
  have hempty : Tables.empty.sessions.WellFormed := SessionTable.empty_wellFormed
  refine ⟨fun d hd v hv => ?_, fun d hd id hget hstore => ?_, ?_⟩
  · obtain ⟨hwf, hserved⟩ := served_of_mem_serveAll hempty hd
    rw [hserved] at hv
    obtain ⟨s, hs, rfl⟩ := Order.serve_view hwf hv
    have hwf' := d.order.serve_wellFormed settings hwf
    exact Session.view_isProper (hwf'.coherent s (SessionTable.mem_of_find? hs)) settings
  · obtain ⟨hwf, hserved⟩ := served_of_mem_serveAll hempty hd
    exact Served.get_iff hserved hwf hget hstore
  · have hordered := ((Seen.begin settings).run orders).ordered
    rwa [List.nil_append] at hordered

def watched : List Order :=
  let calm : Call → Tables.Surroundings := fun _ => ⟨⟨0, 0⟩, none, .ok ()⟩
  [⟨.create ⟨1⟩ "k", calm⟩, ⟨.get ⟨1⟩, calm⟩, ⟨.start ⟨1⟩, calm⟩, ⟨.get ⟨1⟩, calm⟩]

/-- The second reader sees that the session went on. -/
theorem watched_views_follow :
    ∃ v w : SessionView, v.status = .pending ∧ w.status = .live ∧ v.Precedes w ∧
    w.IsProper .standard := by
  have hviews := views_follow_life .standard watched
  have hpair := List.pairwise_iff_getElem.1 hviews.2.2 1 3 (by decide) (by decide) (by decide)
  have hlast :=
    hviews.1 _ (List.getElem_mem (by decide : 3 < (serveAll .standard .empty watched).1.length))
  exact ⟨_, _, rfl, rfl, hpair _ _ rfl rfl rfl, hlast _ rfl⟩

end LiveLesson
