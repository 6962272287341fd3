import LiveLesson.Proofs.Service.Runs
import LiveLesson.Proofs.Service.SameAnswers
import LiveLesson.Proofs.Store.Fate
import LiveLesson.Proofs.Store.StaleSessions

/-!
Cleaning up while operations run over a database that may fail before it executes a call or after. A
cleaning removes the stale sessions and nothing else, and no session that anyone was ever told is
under way.
-/

namespace LiveLesson

/-- The session under the identifier was marked as provisioned, or started. -/
def Exchange.SetsUnderWay (id : SessionId) (found : Option Session) (x : Exchange) : Prop :=
  x = ⟨.markProvisioned id, .ok true⟩ ∨ x.Asks id found .start true

theorem Exchange.SetsUnderWay.ok {id : SessionId} {found : Option Session} {x : Exchange}
    (h : x.SetsUnderWay id found) : ∃ v, x.outcome = .ok v := by
  obtain rfl | hasks := h
  · exact ⟨true, rfl⟩
  · cases hasks with
    | byId => exact ⟨true, rfl⟩
    | byKey => exact ⟨true, rfl⟩

namespace Tables

def Surroundings.calm (around : Surroundings) : Surroundings := { around with fault := none }

theorem fault?_calm (around : Surroundings) (c : Call) : fault? around.calm c = none := by
  cases c <;> rfl

theorem underWay_of_answer {t : Tables} (h : t.sessions.WellFormed) (around : Surroundings)
    (c : Call) {id : SessionId}
    (hx : Exchange.SetsUnderWay id (t.sessions.find? id) ⟨c, (answer around c t).1⟩) :
    ∃ s ∈ t.sessions.rows, s.id = id ∧
      ∃ s' ∈ (answer around c t).2.sessions.rows, s'.id = id ∧ s'.IsUnderWay := by
  obtain hmarked | hasks := hx
  · obtain rfl : c = .markProvisioned id := congrArg Exchange.call hmarked
    have ho : (answer around (.markProvisioned id) t).1 = .ok true := by
      injection hmarked
    cases hfault : fault? around (.markProvisioned id) with
    | some e =>
      rw [answer, hfault] at ho
      cases ho
    | none =>
      rw [answer, hfault] at ho ⊢
      exact SessionTable.underWay_of_markProvisioned h.distinct (Except.ok.inj ho)
  · obtain ⟨s, s', t', hs, hs', _, htarget, hall⟩ | ⟨hnot, _⟩ :=
      (answer_fate h around c id).moved_or_not
    · obtain rfl := (hall .start).1 hasks
      have hmem' := SessionTable.mem_of_find? hs'
      have hcoherent := (answer_wellFormed h around c).coherent s' hmem'
      rw [Session.IsCoherent, htarget] at hcoherent
      exact ⟨s, SessionTable.mem_of_find? hs, SessionTable.id_of_find? hs, s', hmem',
        SessionTable.id_of_find? hs',
        .inl (Option.isSome_iff_ne_none.1 hcoherent.1)⟩
    · exact absurd hasks (hnot .start)

end Tables

theorem Call.SameOutcome.eq_of_ok {c : Call} {o : c.Outcome} {v : c.Answer}
    (h : c.SameOutcome o (.ok v)) : o = .ok v := by
  cases c with
  | insertPending course key =>
    obtain hsame | ⟨_, _, herror⟩ := h
    · exact hsame.symm
    · cases herror
  | _ => exact Eq.symm h

theorem Operation.MayCall.concernsSessions {o : Operation} {xs : List Exchange} {c : Call}
    (h : o.MayCall xs c) : c.concernsSessions = true := by
  cases h <;> rfl

/-- A database that is reached over a line. Whenever a call fails, the next of the losses says
whether it was executed nevertheless and only the reply was lost. -/
structure Remote where
  database : Database
  losses : List Bool

namespace Remote

def world : World Remote where
  answer around c r :=
    let (o, d) := Database.answer around.now around.media c r.database
    match Tables.fault? around c with
    | none => (o, ⟨d, r.losses⟩)
    | some e => (.error e, ⟨if r.losses.headD false then d else r.database, r.losses.tail⟩)
  cleanUp cutoff r := { r with database := Database.world.cleanUp cutoff r.database }

theorem answer_cases (around : Tables.Surroundings) (c : Call) (r : Remote) :
    let a := world.answer around c r
    let b := Database.world.answer around.calm c r.database
    (a.1 = b.1 ∧ a.2.database = b.2) ∨
      ((∃ e, a.1 = .error e) ∧ (a.2.database = r.database ∨ a.2.database = b.2)) := by
  have hcalm : Database.world.answer around.calm c r.database =
      Database.answer around.now around.media c r.database := by
    simp only [Database.world, Tables.fault?_calm]
    rfl
  intro a b
  cases hfault : Tables.fault? around c with
  | none => exact .inl (by simp [a, b, world, hfault, hcalm])
  | some e =>
    refine .inr ⟨⟨e, by simp [a, world, hfault]⟩, ?_⟩
    by_cases hlost : r.losses.headD false = true
    · exact .inr (by simp only [a, b, world, hfault, hcalm, if_pos hlost])
    · exact .inl (by simp only [a, world, hfault, if_neg hlost])

variable {r : Remote} {u : SessionTable}

theorem answer_holds (h : r.database.Holds u) (hwf : u.WellFormed)
    (around : Tables.Surroundings) {c : Call} (hc : c.concernsSessions = true) :
    let a := world.answer around c r
    let b := Tables.answer around.calm c ⟨u, .empty⟩
    ∃ u', a.2.database.Holds u' ∧ u'.WellFormed ∧ u.LeadsTo u' ∧
      ∀ v, a.1 = .ok v → b.1 = .ok v ∧ u'.rows = b.2.sessions.rows := by
  intro a b
  have hstep := Tables.answer_step (t := ⟨u, .empty⟩) hwf.distinct around.calm c
  have hle := Tables.lastId_answer_le_draws around.calm c ⟨u, .empty⟩
  obtain ⟨hsame, hholds⟩ :=
    Database.Holds.answer (t := ⟨u, .empty⟩) h hwf.distinct hwf.fresh around.calm hc
  have hwf' := (hstep.wellFormed hwf).of_lastId_le hle
  have hleads := (SessionTable.LeadsTo.of_step hstep hwf).trans (.of_lastId_le _ hle)
  obtain ⟨ho, hd⟩ | ⟨⟨e, he⟩, hkept | hdone⟩ := answer_cases around c r
  · exact ⟨_, hd ▸ hholds, hwf', hleads, fun v hv => ⟨(hv ▸ ho ▸ hsame).eq_of_ok, rfl⟩⟩
  · exact ⟨u, hkept ▸ h, hwf, .refl u, fun v hv => by cases he.symm.trans hv⟩
  · exact ⟨_, hdone ▸ hholds, hwf', hleads, fun v hv => by cases he.symm.trans hv⟩

end Remote

/-- Someone is told in this event that the session with the identifier was started, or that it is
marked as provisioned. -/
inductive Event.Vouches (id : SessionId) (e : Event Remote) : Prop
  | started {v : Operation.Answer} : e.ended = some (.start id, .ok v) → Vouches id e
  | reported {key : String} {v : StreamEvent} {s : Session} :
    e.ended = some (.event key v, .ok (.callback (.applied .start))) → e.before.database.Stores s →
    s.streamKey = key → s.id = id → Vouches id e
  | provisioned {i : Nat} : e.exchange = some (i, ⟨.markProvisioned id, .ok true⟩) → Vouches id e

namespace Event.Follows

variable {settings : PlaybackSettings} {operations : List Operation} {past : List (Event Remote)}
  {e : Event Remote} {u : SessionTable}

theorem holds (h : e.Follows Remote.world settings operations past) (hu : e.before.database.Holds u)
    (hwf : u.WellFormed) : ∃ u', e.after.database.Holds u' ∧ u'.WellFormed ∧ u.LeadsTo u' := by
  cases hx : e.exchange with
  | some ix =>
    obtain ⟨o, around, _, hmay, _, hafter, _⟩ := h.answered hx
    obtain ⟨u', hu', hwf', hleads, _⟩ := Remote.answer_holds hu hwf around hmay.concernsSessions
    exact ⟨u', hafter ▸ hu', hwf', hleads⟩
  | none =>
    obtain ⟨_, hsame | ⟨cutoff, hclean⟩⟩ := h.of_no_exchange hx
    · exact ⟨u, hsame ▸ hu, hwf, .refl u⟩
    · rw [hclean]
      exact ⟨_, hu.holds_deleteStale cutoff cutoff, hwf.filter _, .of_filter u _⟩

/-- What is told stands behind a call on the session. -/
theorem exchange_of_vouches (h : e.Follows Remote.world settings operations past)
    (hu : e.before.database.Holds u) (hwf : u.WellFormed) {id : SessionId} (hv : e.Vouches id) :
    ∃ i x, e.exchange = some (i, x) ∧ x.SetsUnderWay id (u.find? id) := by
  cases hv with
  | started hended =>
    obtain ⟨i, x, hx, _, hends⟩ := h.of_ended hended
    exact ⟨i, x, hx, .inr (hends.last_of_start ▸ .byId)⟩
  | reported hended hstored hkey hid =>
    obtain ⟨i, x, hx, _, hends⟩ := h.of_ended hended
    have hfound := (SessionTable.find?_eq_some_iff hwf.distinct).2 ⟨hu.stores_iff.1 hstored, hid⟩
    exact ⟨i, x, hx, .inr (hends.last_of_applied.2 ▸ .byKey hfound hkey)⟩
  | provisioned hx => exact ⟨_, _, hx, .inl rfl⟩

/-- A session that is vouched for is there, and is under way from then on. -/
theorem underWay_of_vouches (h : e.Follows Remote.world settings operations past)
    (hu : e.before.database.Holds u) (hwf : u.WellFormed) {id : SessionId} (hv : e.Vouches id) :
    ∃ s ∈ u.rows, s.id = id ∧
      ∃ u', e.after.database.Holds u' ∧ ∃ s' ∈ u'.rows, s'.id = id ∧ s'.IsUnderWay := by
  obtain ⟨i, x, hx, hwhat⟩ := h.exchange_of_vouches hu hwf hv
  obtain ⟨o, around, _, hmay, hxe, hafter, _⟩ := h.answered hx
  obtain ⟨u', hu', _, _, hsame⟩ := Remote.answer_holds hu hwf around hmay.concernsSessions
  rw [hxe] at hwhat
  obtain ⟨v, hok⟩ := hwhat.ok
  obtain ⟨ho, hrows⟩ := hsame v hok
  rw [show (Remote.world.answer around x.call e.before).1 = _ from hok, ← ho] at hwhat
  obtain ⟨s, hs, hid, s', hs', hid', hway⟩ :=
    Tables.underWay_of_answer (t := ⟨u, .empty⟩) hwf around.calm x.call hwhat
  exact ⟨s, hs, hid, u', hafter ▸ hu', s', hrows ▸ hs', hid', hway⟩

end Event.Follows

/-- The database keeps a well-formed table, to which every table after an event of the past
leads. -/
def Remote.Remembers (past : List (Event Remote)) (r : Remote) : Prop :=
  ∃ u, r.database.Holds u ∧ u.WellFormed ∧
    ∀ e ∈ past, ∃ v, e.after.database.Holds v ∧ v.WellFormed ∧ v.LeadsTo u

namespace Remote.Remembers

variable {settings : PlaybackSettings} {operations : List Operation} {past : List (Event Remote)}
  {e : Event Remote}

theorem begin {r : Remote} {t : SessionTable} (hd : r.database.Holds t) (hwf : t.WellFormed) :
    r.Remembers [] :=
  ⟨t, hd, hwf, by simp⟩

theorem step (h : e.before.Remembers past) (he : e.Follows Remote.world settings operations past) :
    e.after.Remembers (past ++ [e]) := by
  obtain ⟨u, hu, hwf, hpast⟩ := h
  obtain ⟨u', hu', hwf', hleads⟩ := he.holds hu hwf
  refine ⟨u', hu', hwf', fun a ha => ?_⟩
  rcases List.mem_append.1 ha with ha | ha
  · obtain ⟨v, hv, hwfv, hlater⟩ := hpast a ha
    exact ⟨v, hv, hwfv, hlater.trans hleads⟩
  · obtain rfl := List.mem_singleton.1 ha
    exact ⟨u', hu', hwf', .refl u'⟩

end Remote.Remembers

section Run

variable {settings : PlaybackSettings} {operations : List Operation} {turns : List Turn}
  {r : Remote}
  {t u : SessionTable} {pre post : List (Event Remote)} {e : Event Remote} {s : Session}

theorem remembers_before (hd : r.database.Holds t) (hwf : t.WellFormed)
    (hrun : ((System.begin settings operations r).run Remote.world turns).1 = pre ++ e :: post) :
    e.before.Remembers pre ∧ e.Follows Remote.world settings operations pre :=
  System.run_split Remote.world (fun past r => r.Remembers past) (.begin hd hwf)
    (fun _ _ h he => h.step he) hrun

theorem underWay_of_vouched_before (hd : r.database.Holds t) (hwf : t.WellFormed)
    (hrun : ((System.begin settings operations r).run Remote.world turns).1 = pre ++ e :: post)
    (hu : e.before.database.Holds u) (hs : s ∈ u.rows) {a : Event Remote} (ha : a ∈ pre)
    (hv : a.Vouches s.id) : s.IsUnderWay := by
  obtain ⟨⟨u', hu', _, hpast⟩, _⟩ := remembers_before hd hwf hrun
  obtain rfl := hu.unique hu'
  obtain ⟨v, hholds, hwfv, hleads⟩ := hpast a ha
  obtain ⟨first, rest, rfl⟩ := List.append_of_mem ha
  rw [List.append_assoc, List.cons_append] at hrun
  obtain ⟨⟨w, hw, hwfw, _⟩, hfollows⟩ := remembers_before hd hwf hrun
  obtain ⟨_, _, _, v', hv', s', hs', hid, hway⟩ := hfollows.underWay_of_vouches hw hwfw hv
  obtain rfl := hholds.unique hv'
  obtain ⟨s₀, hs₀, hlater⟩ := hleads.continues s hs (hid ▸ (hwfv.bounds s' hs').2)
  obtain rfl := hwfv.distinct.eq_of_id hs' hs₀ (hid.trans hlater.id)
  exact hway.continues hlater

theorem mem_of_vouched_after (hd : r.database.Holds t) (hwf : t.WellFormed)
    (hrun : ((System.begin settings operations r).run Remote.world turns).1 = pre ++ e :: post)
    (hu : e.after.database.Holds u) {id : SessionId} (hle : id.value ≤ u.lastId) {a : Event Remote}
    (ha : a ∈ post) (hv : a.Vouches id) : ∃ s ∈ u.rows, s.id = id := by
  obtain ⟨rest, last, rfl⟩ := List.append_of_mem ha
  have hsplit : pre ++ e :: (rest ++ a :: last) = (pre ++ e :: rest) ++ a :: last := by simp
  rw [hsplit] at hrun
  obtain ⟨⟨w, hw, hwfw, hpast⟩, hfollows⟩ := remembers_before hd hwf hrun
  obtain ⟨v, hholds, _, hleads⟩ := hpast e (by simp)
  obtain rfl := hu.unique hholds
  obtain ⟨s', hs', rfl, _⟩ := hfollows.underWay_of_vouches hw hwfw hv
  obtain ⟨s, hs, hlater⟩ := hleads.continues s' hs' hle
  exact ⟨s, hs, hlater.id.symm⟩

/-- Each cleaning of a run removes the sessions that are pending, not marked as provisioned and
created before its cutoff, whose number it returns, and nothing else. None of them is a session that
anyone in the run is told is started or marked as provisioned, be it before the cleaning or
after. -/
theorem stale_sessions_removed (settings : PlaybackSettings) (operations : List Operation)
    {r : Remote} {t : SessionTable} (hd : r.database.Holds t) (hwf : t.WellFormed)
    (front back : List Turn) (cutoff : Timestamp) :
    let start := System.begin settings operations r
    let before := (start.run Remote.world front).2.state
    let events := (start.run Remote.world (front ++ .cleanUp cutoff :: back)).1
    ∃ (after : Remote) (u : SessionTable), events[front.length]? =
      some ⟨before, after, none, none⟩ ∧
      (∀ now, before.database.deleteStale now cutoff =
        (.ok (u.rows.countP fun s => s.status = .pending ∧ s.provisionedAt = none ∧
          s.createdAt < cutoff),
          after.database)) ∧
      before.database.Holds u ∧
      after.database.Holds { u with
        rows := u.rows.filter fun s =>
          ¬(s.status = .pending ∧ s.provisionedAt = none ∧ s.createdAt < cutoff) } ∧
      (∀ name, name ≠ Command.sessions →
        after.database.relation? name = before.database.relation? name) ∧
      ∀ s, before.database.Stores s → (∃ a ∈ events, a.Vouches s.id) → after.database.Stores s := by
  intro start before events
  let clean : Event Remote := ⟨before, Remote.world.cleanUp cutoff before, none, none⟩
  obtain ⟨post, hrun⟩ : ∃ post, events = (start.run Remote.world front).1 ++ clean :: post :=
    ⟨_, congrArg Prod.fst (System.run_append Remote.world start front (.cleanUp cutoff :: back))⟩
  obtain ⟨⟨u, hu, hwfu, _⟩, _⟩ := remembers_before hd hwf hrun
  have hafter : clean.after.database.Holds (u.deleteStale cutoff).2 :=
    hu.holds_deleteStale cutoff cutoff
  have hput : clean.after.database = before.database.put Command.sessions _ :=
    congrArg Prod.snd (hu.deleteStale cutoff cutoff)
  have hstale : ∀ s : Session, SessionTable.isStale cutoff s =
      decide (s.status = .pending ∧ s.provisionedAt = none ∧ s.createdAt < cutoff) := by
    intro s
    rw [Bool.eq_iff_iff, SessionTable.isStale_iff, decide_eq_true_iff]
  refine ⟨clean.after, u, ?_, fun now => ?_, hu, ?_, fun name hne => ?_, fun s hs ⟨a, ha, hv⟩ => ?_⟩
  · rw [hrun, ← System.length_run Remote.world start front]
    simp [clean]
  · rw [hput, ← funext hstale]
    have hcount : (u.deleteStale cutoff).1 = u.rows.countP (SessionTable.isStale cutoff) :=
      congrArg Prod.fst (u.deleteStale_eq cutoff)
    exact hcount ▸ hu.deleteStale now cutoff
  · simpa only [SessionTable.deleteStale_eq, hstale, decide_not] using hafter
  · rw [hput, Database.relation?_put_of_ne hne]
  · have hmem := hu.stores_iff.1 hs
    refine hafter.stores_iff.2 ?_
    rw [hrun] at ha
    rcases List.mem_append.1 ha with ha | ha
    · have hway := underWay_of_vouched_before hd hwf hrun hu hmem ha hv
      have hnot := SessionTable.not_stale_of_underWay hway (hwfu.coherent s hmem) cutoff
      exact List.mem_filter.2 ⟨hmem, by rw [hnot]; rfl⟩
    · rcases List.mem_cons.1 ha with rfl | ha
      · cases hv with
        | started hended => cases hended
        | reported hended => cases hended
        | provisioned hexchange => cases hexchange
      · obtain ⟨s', hs', hid⟩ :=
          mem_of_vouched_after hd hwf hrun hafter (hwfu.bounds s hmem).2 ha hv
        rwa [← hwfu.distinct.eq_of_id (List.mem_of_mem_filter hs') hmem hid]

/-- Two sessions are created. The second one is stored, but the reply is lost, so no one learns of
it. -/
def orphaning : List Operation := [.create ⟨1⟩ "a", .create ⟨1⟩ "b"]

def orphaningTurns : List Turn :=
  let at_ : Int → Option StoreError → Tables.Surroundings := fun n fault => ⟨⟨n, 0⟩, fault, .ok ()⟩
  [.call 0 (at_ 1 none), .call 1 (at_ 2 (some .disconnected)), .call 0 (at_ 3 none),
    .call 0 (at_ 4 none)]

def orphaned : Remote := ⟨.ofTables ⟨0, 0⟩ .empty .empty, [true]⟩

def acceptedSession : Session := ⟨⟨1⟩, ⟨1⟩, "a", .pending, none, none, some ⟨4, 0⟩, ⟨1, 0⟩⟩

theorem orphan_removed :
    let before :=
      ((System.begin .standard orphaning orphaned).run Remote.world orphaningTurns).2.state
    before.database.Holds ⟨2, [acceptedSession, .pending ⟨2⟩ ⟨1⟩ "b" ⟨2, 0⟩]⟩ ∧
      ∃ d, before.database.deleteStale ⟨6, 0⟩ ⟨5, 0⟩ = (.ok 1, d) ∧ d.Holds ⟨2, [acceptedSession]⟩ ∧
        d.Stores acceptedSession := by
  intro before
  have hbefore : before.database.Holds ⟨2, [acceptedSession, .pending ⟨2⟩ ⟨1⟩ "b" ⟨2, 0⟩]⟩ := rfl
  obtain ⟨after, u, _, hcount, hu, hafter, _, hkept⟩ :=
    stale_sessions_removed .standard orphaning (r := orphaned)
    rfl SessionTable.empty_wellFormed orphaningTurns [] ⟨5, 0⟩
  obtain rfl := hu.unique hbefore
  -- The last call before the cleaning notes the consent for the first session.
  have hvouched := hkept acceptedSession (hbefore.stores_iff.2 (by simp))
    ⟨_, List.mem_of_getElem? (i := 3) rfl, .provisioned rfl⟩
  exact ⟨hbefore, after.database, hcount ⟨6, 0⟩, hafter, hvouched⟩

end Run

end LiveLesson
