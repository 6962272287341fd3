import LiveLesson.Proofs.Service.AlikePrograms
import LiveLesson.Proofs.Store.GivenOut

/-!
Operations side by side over the tables and over a database. The same turns lead to the same events,
but for the identifiers that the two stores give out and the moments they note.
-/

namespace LiveLesson

theorem Database.answer_alike {m : Correspondence} {t : Tables} {d : Database} {u : SessionTable}
    (hd : d.Holds u) (hdistinct : SessionTable.Distinct u.rows)
    (hfresh : ∀ s ∈ u.rows, s.id.value ≠ u.lastId + 1) (h : t.sessions.Alike m u)
    {around around' : Tables.Surroundings} (ha : around.Alike m.moments around') {c c' : Call}
    (hc : c.Alike m.ids c') :
    let r := Tables.answer around c t
    let r' := world.answer around' c' d
    Exchange.isAdded ⟨c', r'.1⟩ = Exchange.isAdded ⟨c, r.1⟩ ∧
      ∃ u' : SessionTable, r'.2.Holds u' ∧ (u.WellFormed → u'.WellFormed) ∧
        u'.lastId = (if c.draws around then u.lastId + 1 else u.lastId) ∧
        ((Exchange.isAdded ⟨c, r.1⟩ = true → m.ids ⟨t.sessions.lastId + 1⟩ = ⟨u.lastId + 1⟩) →
          Exchange.Alike m ⟨c, r.1⟩ ⟨c', r'.1⟩ ∧ r.2.sessions.Alike m u') := by
  intro r r'
  -- The tables that the database keeps stand between the two sides.
  let v : Tables := ⟨u, .empty⟩
  obtain ⟨hsame, hholds⟩ := Holds.answer (t := v) hd hdistinct hfresh around' hc.concernsSessions
  rw [hc.draws ha.fault] at hholds
  have hadded := Tables.isAdded_alike (u := v) h ha hc
  refine ⟨hsame.isAdded.trans hadded, _, hholds, fun hu => ?_, rfl, fun hid => ?_⟩
  · have hwf := Tables.answer_wellFormed (t := v) hu around' c'
    have hle := Tables.lastId_answer_le_draws around' c' v
    rw [hc.draws ha.fault] at hle
    exact hwf.of_lastId_le hle
  · obtain ⟨hexchange, hrows⟩ := Tables.answer_alike (u := v) h ha hc hid
    exact ⟨hexchange.of_sameOutcome hsame, hrows⟩

variable (m : Correspondence)

inductive Turn.Alike (moments : Timestamp → Timestamp → Prop) : Turn → Turn → Prop
  | call (i : Nat) {around around' : Tables.Surroundings} : around.Alike moments around' →
    Alike moments (.call i around) (.call i around')

def Tables.Alike (t : Tables) (d : Database) : Prop := ∃ u :
    SessionTable, d.Holds u ∧ t.sessions.Alike m u

structure Event.Alike (e : Event Tables) (e' : Event Database) : Prop where
  before : e.before.Alike m e'.before
  after : e.after.Alike m e'.after
  exchange : Option.Rel (fun x x' => x'.1 = x.1 ∧ x.2.Alike m x'.2) e.exchange e'.exchange
  ended : Option.Rel (fun x x' => x'.1 = x.1.rename m.ids ∧ x.2.Alike m x'.2) e.ended e'.ended

structure Process.Alike (p p' : Process) : Prop where
  operation : p'.operation = p.operation.rename m.ids
  rest : p.rest.Alike m (Operation.Outcome.Alike m) p'.rest

structure System.Alike (s : System Tables) (s' : System Database) (u : SessionTable) : Prop where
  holds : s'.state.Holds u
  wellFormed : u.WellFormed
  sessions : s.state.sessions.Alike m u
  processes : List.Forall₂ (Process.Alike m) s.processes s'.processes

def Turn.attempt {σ : Type} (t : Turn) (e : Event σ) : Option Bool :=
  match t, e.exchange with
  | .call _ around, some (_, x) => if x.call.draws around then some x.isAdded else none
  | _, _ => none

def attempts {σ : Type} (turns : List Turn) (events : List (Event σ)) : List (Option Bool) :=
  List.zipWith Turn.attempt turns events

/-- What is given out at the same time corresponds. -/
def Correspondence.Covers (l l' : Int) (attempts : List (Option Bool)) : Prop :=
  ∀ p ∈ givenOut l l' attempts, m.ids p.1 = p.2

theorem Correspondence.Covers.head {m : Correspondence} {l l' : Int} {attempt : Option Bool}
    {rest : List (Option Bool)} (h : m.Covers l l' (attempt :: rest)) (hyes : attempt = some true) :
    m.ids ⟨l + 1⟩ = ⟨l' + 1⟩ := by
  subst hyes
  exact h (⟨l + 1⟩, ⟨l' + 1⟩) List.mem_cons_self

theorem Correspondence.Covers.tail {m : Correspondence} {l l' : Int} {attempt : Option Bool}
    {rest : List (Option Bool)} (h : m.Covers l l' (attempt :: rest)) :
    m.Covers (if attempt = some true then l + 1 else l) (if attempt.isSome then l' + 1
      else l') rest := by
  rcases attempt with _ | (_ | _)
  · exact h
  · exact h
  · exact fun p hp => h p (List.mem_cons_of_mem _ hp)

namespace System

variable {m} {s : System Tables} {s' : System Database} {u : SessionTable}

theorem Alike.next? (h : s.Alike m s' u) (i : Nat) : (s.next? i = none ∧ s'.next? i = none) ∨
    ∃ o c k c' k', s.next? i = some (o, ⟨c, k⟩) ∧ s'.next? i = some (o.rename m.ids, ⟨c', k'⟩) ∧
      c.Alike m.ids c' ∧ ∀ a a', Exchange.Alike m ⟨c, a⟩ ⟨c', a'⟩ →
        (k a).Alike m (Operation.Outcome.Alike m) (k' a') := by
  unfold System.next?
  obtain ⟨hp, hp'⟩ | ⟨p, p', hp, hp', hrel⟩ := rel_cases (getElem?_rel h.processes i)
  · rw [hp, hp']
    exact .inl ⟨rfl, rfl⟩
  · rw [hp, hp']
    obtain ⟨hnone, hnone'⟩ | ⟨c, k, c', k', hsome, hsome', hc, hk⟩ := hrel.rest.next?
    · simp [hnone, hnone']
    · refine .inr ⟨p.operation, c, k, c', k', ?_, ?_, hc, hk⟩
      · simp [hsome]
      · simp [hsome', hrel.operation]

/-- One turn on both sides. If it adds a session, the identifiers that are given out have to
correspond. -/
theorem step_alike (h : s.Alike m s' u) (i : Nat) {around around' : Tables.Surroundings}
    (ha : around.Alike m.moments around') :
    let r := s.step Tables.world (.call i around)
    let r' := s'.step Database.world (.call i around')
    let attempt := (Turn.call i around).attempt r.1
    (Turn.call i around').attempt r'.1 = attempt ∧
      ((attempt = some true → m.ids ⟨s.state.sessions.lastId + 1⟩ = ⟨u.lastId + 1⟩) →
        r.1.Alike m r'.1 ∧ ∃ u', r.2.Alike m r'.2 u' ∧
          r.2.state.sessions.lastId =
            (if attempt = some true then s.state.sessions.lastId + 1 else s.state.sessions.lastId) ∧
          u'.lastId = if attempt.isSome then u.lastId + 1 else u.lastId) := by
  obtain ⟨hnone, hnone'⟩ | ⟨o, c, k, c', k', hsome, hsome', hc, hk⟩ := h.next? i
  · rw [step_of_next?_eq_none hnone, step_of_next?_eq_none hnone']
    have hsame : s.state.Alike m s'.state := ⟨u, h.holds, h.sessions⟩
    exact ⟨rfl, fun _ => ⟨⟨hsame, hsame, .none, .none⟩, u, h, rfl, rfl⟩⟩
  · rw [step_of_next?_eq_some hsome, step_of_next?_eq_some hsome']
    obtain ⟨hadded, u', hholds, hwf, hlast, hgo⟩ :=
      Database.answer_alike h.holds h.wellFormed.distinct h.wellFormed.fresh h.sessions ha hc
    let added := Exchange.isAdded ⟨c, (Tables.answer around c s.state).1⟩
    have hdraws : added = true → c.draws around = true := Call.draws_of_isAdded
    intro r r' attempt
    have hattempt : attempt = if c.draws around then some added else none := rfl
    have hadds : attempt = some true ↔ added = true := by
      rw [hattempt]
      by_cases hyes : c.draws around = true
      · simp [hyes]
      · simp [hyes, mt hdraws hyes]
    refine ⟨?_, fun hid => ?_⟩
    · show (if c'.draws around' then some _ else none) = _
      rw [hc.draws ha.fault, hadded]
      rfl
    · obtain ⟨hx, hrows⟩ := hgo fun hyes => hid (hadds.2 hyes)
      refine ⟨⟨⟨u, h.holds, h.sessions⟩, ⟨u', hholds, hrows⟩, .some ⟨rfl, hx⟩, ?_⟩, u',
        ⟨hholds, hwf h.wellFormed, hrows, ?_⟩, ?_, ?_⟩
      · exact map_rel (fun hend => ⟨rfl, hend⟩) (hk _ _ hx).result?
      · exact set_rel h.processes i ⟨rfl, hk _ _ hx⟩
      · rw [if_congr hadds rfl rfl]
        exact Tables.lastId_answer around c s.state
      · rw [hlast, hattempt]
        by_cases hyes : c.draws around = true
        · simp [hyes]
        · simp [hyes]

/-- The same turns on both sides lead to the same events, if what is given out in them corresponds.
It may be told from the events on either side. -/
theorem run_alike {turns turns' : List Turn}
    (hturns : List.Forall₂ (Turn.Alike m.moments) turns turns') (h : s.Alike m s' u)
    (hids : m.Covers s.state.sessions.lastId u.lastId
      (attempts turns (s.run Tables.world turns).1) ∨
      m.Covers s.state.sessions.lastId u.lastId
      (attempts turns' (s'.run Database.world turns').1)) :
    List.Forall₂ (Event.Alike m) (s.run Tables.world turns).1 (s'.run Database.world turns').1 ∧
      (s.run Tables.world turns).2.state.Alike m (s'.run Database.world turns').2.state := by
  induction hturns generalizing s s' u with
  | nil => exact ⟨.nil, u, h.holds, h.sessions⟩
  | @cons t t' turns turns' ht _ ih =>
    obtain ⟨i, ha⟩ := ht
    obtain ⟨hsame, hgo⟩ := step_alike h i ha
    obtain ⟨hevent, u', hs, hlast, hlast'⟩ := hgo (hids.elim (fun hc => hc.head) fun hc hyes =>
      hc.head (hsame.trans hyes))
    obtain ⟨hevents, hstate⟩ := ih hs (by
      rw [hlast, hlast']
      exact hids.imp (fun hc => hc.tail) fun hc => hsame ▸ hc.tail)
    exact ⟨.cons hevent hevents, hstate⟩

theorem begin_alike (settings : PlaybackSettings) (operations : List Operation)
    {d : Database} {l : Int} (hl : 0 ≤ l) (hd : d.Holds ⟨l, []⟩) :
    (begin settings operations Tables.empty).Alike m
    (begin settings (operations.map (Operation.rename m.ids)) d)
      ⟨l, []⟩ where
  holds := hd
  wellFormed := SessionTable.empty_wellFormed.of_lastId_le hl
  sessions := .nil
  processes := by
    simp only [begin, List.map_map, List.forall₂_map_left_iff, List.forall₂_map_right_iff]
    exact List.forall₂_same.2 fun o _ => ⟨rfl, o.program_alike settings⟩

def Agree (m : Correspondence) (settings : PlaybackSettings) (operations : List Operation)
    (turns turns' : List Turn) (d : Database) : Prop :=
  let r := (begin settings operations .empty).run Tables.world turns
  let r' := (begin settings (operations.map (Operation.rename m.ids)) d).run Database.world turns'
  List.Forall₂ (Event.Alike m) r.1 r'.1 ∧ r.2.state.Alike m r'.2.state

end System

theorem Operation.rename_symm (ids : Equiv.Perm SessionId) (o : Operation) :
    (o.rename ids.symm).rename ids = o := by
  cases o <;> simp [rename]

/-- A database does what the tables do. On one call over the same rows, with the next identifier and
the time the same, the answers and the rows are the same, but for the error when a key is taken.
Where the identifiers that are given out and the times may differ, everything is the same up to
these, on one call and on a whole run: every run over the tables has its like over the database, and
the other way round. -/
theorem stores_agree :
    (∀ (t : Tables) (d : Database) (around : Tables.Surroundings) (c : Call), d.Holds t.sessions →
      SessionTable.Distinct t.sessions.rows →
      (∀ s ∈ t.sessions.rows, s.id.value ≠ t.sessions.lastId + 1) →
      c.concernsSessions = true →
      let r := Tables.answer around c t
      let r' := Database.world.answer around c d
      c.SameOutcome r.1 r'.1 ∧ ∃ l, r'.2.Holds ⟨l, r.2.sessions.rows⟩) ∧
    (∀ (m : Correspondence) (t : Tables) (d : Database) (u : SessionTable)
      (around around' : Tables.Surroundings)
      (c c' : Call), d.Holds u → SessionTable.Distinct u.rows →
      (∀ s ∈ u.rows, s.id.value ≠ u.lastId + 1) →
      t.sessions.Alike m u → around.Alike m.moments around' → c.Alike m.ids c' →
      let r := Tables.answer around c t
      let r' := Database.world.answer around' c' d
      (Exchange.isAdded ⟨c, r.1⟩ = true → m.ids ⟨t.sessions.lastId + 1⟩ = ⟨u.lastId + 1⟩) →
      Exchange.Alike m ⟨c, r.1⟩ ⟨c', r'.1⟩ ∧ r.2.Alike m r'.2) ∧
    ∀ (settings : PlaybackSettings) (moments : Timestamp → Timestamp → Prop)
    (turns turns' : List Turn)
      (d : Database) (l : Int), List.Forall₂ (Turn.Alike moments) turns turns' → 0 ≤ l →
      d.Holds ⟨l, []⟩ →
      (∀ operations, ∃ ids, System.Agree ⟨ids, moments⟩ settings operations turns turns' d) ∧
        ∀ operations', ∃ ids operations, operations' = operations.map (Operation.rename ids) ∧
          System.Agree ⟨ids, moments⟩ settings operations turns turns' d := by
  refine ⟨fun t d around c hd hdist hfresh hc => ?_,
    fun m t d u around around' c c' hd hdist hfresh h ha hc => ?_,
    fun settings moments turns turns' d l hturns hl hd => ⟨?_, ?_⟩⟩
  · obtain ⟨hsame, hholds⟩ := hd.answer hdist hfresh around hc
    exact ⟨hsame, _, hholds⟩
  · intro r r' hid
    obtain ⟨_, u', hholds, _, _, hgo⟩ := Database.answer_alike hd hdist hfresh h ha hc
    obtain ⟨hexchange, hrows⟩ := hgo hid
    exact ⟨hexchange, u', hholds, hrows⟩
  · intro operations
    obtain ⟨ids, hids⟩ := exists_perm_givenOut 0 l
      (attempts turns ((System.begin settings operations .empty).run Tables.world turns).1)
    exact ⟨ids, System.run_alike hturns (System.begin_alike settings operations hl hd) (.inl hids)⟩
  · intro operations'
    obtain ⟨ids, hids⟩ := exists_perm_givenOut 0 l
      (attempts turns' ((System.begin settings operations' d).run Database.world turns').1)
    have hback : operations' =
        (operations'.map (Operation.rename ids.symm)).map (Operation.rename ids) := by
      simp [Function.comp_def, Operation.rename_symm]
    refine ⟨ids, _, hback, System.run_alike hturns (System.begin_alike settings _ hl hd) (.inr ?_)⟩
    rw [← hback]
    exact hids

/-- Over a database that has given out seven identifiers, one second later. -/
theorem created_session_agrees :
    let turns := fun n : Int => [Turn.call 0 ⟨⟨n, 0⟩, none, .ok ()⟩, .call 1 ⟨⟨n, 0⟩, none, .ok ()⟩]
    ∃ ids, System.Agree ⟨ids, fun a b => b.seconds = a.seconds + 1⟩ .standard
      [.create ⟨1⟩ "k", .start ⟨1⟩]
      (turns 5) (turns 6) (Database.ofTables ⟨0, 0⟩ ⟨7, []⟩ .empty) := by
  intro turns
  have hturns : List.Forall₂ (Turn.Alike fun a b => b.seconds = a.seconds + 1) (turns 5)
      (turns 6) :=
    .cons (.call 0 ⟨rfl, rfl, rfl⟩) (.cons (.call 1 ⟨rfl, rfl, rfl⟩) .nil)
  exact (stores_agree.2.2 .standard _ _ _ (Database.ofTables ⟨0, 0⟩ ⟨7, []⟩ .empty) 7 hturns
    (by decide) rfl).1 _

end LiveLesson
