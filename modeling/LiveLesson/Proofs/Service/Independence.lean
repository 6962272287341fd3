import LiveLesson.Proofs.Service.Sequence
import LiveLesson.Proofs.Store.TableHistory

/-!
Operations on different sessions do not get into each other's way. An operation on a session that
exists already names it by its identifier or by its key; what it answers depends on the session that
it finds, and it changes no other one. So two operations that name different sessions may be carried
out in either order.
-/

namespace LiveLesson

/-- How a session is named from outside. -/
inductive SessionName where
  | ofId (id : SessionId)
  | ofKey (key : String)
  deriving DecidableEq, Repr

namespace SessionName

def means : SessionName → Session → Bool
  | ofId id, s => s.id == id
  | ofKey key, s => s.streamKey == key

@[simp] theorem means_after (n : SessionName) (s : Session) (tr : Transition) (now : Timestamp) :
    n.means (s.after tr now) = n.means s := by
  cases n with
  | ofId id => rw [means, means, s.after_id]
  | ofKey key => rw [means, means, s.after_streamKey]

end SessionName

theorem any_and_eq_find?_any {α : Type} {p : α → Bool} {as : List α} (h : AtMostOne p as)
    (g : α → Bool) : (as.any fun a => p a && g a) = (as.find? p).any g := by
  cases hfound : as.find? p with
  | none =>
    have hnone : ∀ a ∈ as, p a = false := by simpa using hfound
    rw [Option.any_none, List.any_eq_false]
    intro a ha
    simp [hnone a ha]
  | some a =>
    have ha := List.mem_of_find?_eq_some hfound
    have hp := List.find?_some hfound
    exact any_and_of_unique ha hp fun b hb hpb => h.eq hb ha hpb hp

namespace SessionTable

variable {t : SessionTable} {n n' : SessionName}

theorem Distinct.atMostOne_means {rows : List Session} (h : Distinct rows) (n : SessionName) :
    AtMostOne n.means rows := by
  cases n with
  | ofId id =>
    exact h.ids.imp fun hne hboth => hne ((beq_iff_eq.1 hboth.1).trans (beq_iff_eq.1 hboth.2).symm)
  | ofKey key =>
    exact h.keys.imp fun hne hboth => hne ((beq_iff_eq.1 hboth.1).trans (beq_iff_eq.1 hboth.2).symm)

def movedOn (tr : Transition) (now : Timestamp) (s : Session) : Session :=
  if s.status == tr.source then s.after tr now else s

theorem means_movedOn (n : SessionName) (tr : Transition) (now : Timestamp) (s : Session) :
    n.means (movedOn tr now s) = n.means s := by
  unfold movedOn
  split
  · exact n.means_after s tr now
  · rfl

/-- A transition looks at the session that is named, and changes no other. -/
theorem transition_means (h : Distinct t.rows) (n : SessionName) (tr : Transition)
    (now : Timestamp) :
    t.transition n.means tr now =
      ((t.rows.find? n.means).any (fun s => s.status == tr.source),
        (t.change n.means (movedOn tr now)).2) := by
  have hone := h.atMostOne_means n
  have hguarded : AtMostOne (fun s => n.means s && s.status == tr.source) t.rows :=
    hone.imp fun hnot hboth =>
      hnot ⟨(Bool.and_eq_true_iff.1 hboth.1).1, (Bool.and_eq_true_iff.1 hboth.2).1⟩
  rw [transition, replace_updateFirst _ hguarded, ← any_and_eq_find?_any hone]
  refine Prod.ext rfl (congrArg (SessionTable.mk t.lastId) (List.map_congr_left fun s _ => ?_))
  cases hmeant : n.means s <;> simp [movedOn, hmeant]

def Apart (t : SessionTable) (n n' : SessionName) : Prop :=
  ∀ s ∈ t.rows, ¬ (n.means s = true ∧ n'.means s = true)

theorem Apart.symm (h : t.Apart n n') : t.Apart n' n := fun s hs hboth => h s hs ⟨hboth.2, hboth.1⟩

variable {f f' : Session → Session} (hf : ∀ m : SessionName, ∀ s, m.means (f s) = m.means s)
  (hf' : ∀ m : SessionName, ∀ s, m.means (f' s) = m.means s)

include hf in
theorem means_changed (n n' : SessionName) (s : Session) :
    n'.means (if n.means s then f s else s) = n'.means s := by
  split
  · exact hf n' s
  · rfl

include hf in
theorem find?_change_of_apart (hapart : t.Apart n n') :
    (t.change n.means f).2.rows.find? n'.means = t.rows.find? n'.means := by
  simp only [change, List.find?_map, Function.comp_def, means_changed hf]
  cases hfound : t.rows.find? n'.means with
  | none => rfl
  | some s =>
    have hnot : ¬ n.means s = true := fun hn =>
      hapart s (List.mem_of_find?_eq_some hfound) ⟨hn, List.find?_some hfound⟩
    rw [Option.map_some, if_neg hnot]

include hf hf' in
theorem change_comm_of_apart (hapart : t.Apart n n') :
    ((t.change n.means f).2.change n'.means f').2 =
      ((t.change n'.means f').2.change n.means f).2 := by
  refine congrArg (SessionTable.mk t.lastId) ?_
  simp only [change, List.map_map]
  refine List.map_congr_left fun s hs => ?_
  simp only [Function.comp_apply, means_changed hf, means_changed hf']
  by_cases hn : n.means s = true
  · have hn' : ¬ n'.means s = true := fun hn' => hapart s hs ⟨hn, hn'⟩
    simp [hn, hn']
  · simp [hn]

end SessionTable

def Call.subject? : Call → Option SessionName
  | findSession id | transitionById id _ => some (.ofId id)
  | transitionByKey key _ => some (.ofKey key)
  | _ => none

/-- The name of the session that an operation asks for or moves on. A creation names none. -/
def Operation.subject? : Operation → Option SessionName
  | create .. => none
  | get id | start id | finish id => some (.ofId id)
  | event key _ => some (.ofKey key)

theorem Tables.answer_of_subject {c : Call} {n : SessionName} (hn : c.subject? = some n)
    (around : Surroundings) :
    ∃ (told : Option Session → c.Outcome) (f : Session → Session),
    (∀ m : SessionName, ∀ s, m.means (f s) = m.means s) ∧
      ∀ t : Tables, SessionTable.Distinct t.sessions.rows → answer around c t =
        (told (t.sessions.rows.find? n.means),
          { t with sessions := (t.sessions.change n.means f).2 }) := by
  have hidle : ∀ t : Tables, { t with sessions := (t.sessions.change n.means id).2 } = t := by
    intro t
    simp [SessionTable.change]
  unfold answer
  cases hfault : fault? around c with
  | some e => exact ⟨fun _ => .error e, id, fun _ _ => rfl, fun t _ => by rw [hidle]⟩
  | none =>
    cases c with
    | findSession i =>
      cases hn
      exact ⟨.ok, id, fun _ _ => rfl, fun t _ => by rw [hidle]; rfl⟩
    | transitionById id tr =>
      cases hn
      exact ⟨fun found => .ok (found.any fun s : Session => s.status == tr.source), _,
        fun m => SessionTable.means_movedOn m tr around.now,
        fun t h => congrArg t.withSessions
        (SessionTable.transition_means h (.ofId id) tr around.now)⟩
    | transitionByKey key tr =>
      cases hn
      exact ⟨fun found => .ok (found.any fun s : Session => s.status == tr.source), _,
        fun m => SessionTable.means_movedOn m tr around.now,
        fun t h => congrArg t.withSessions
        (SessionTable.transition_means h (.ofKey key) tr around.now)⟩
    | _ => cases hn

theorem Program.run_of_one_call {α σ : Type} {p : Program α} {c : Call} {k : c.Outcome → Program α}
    (hp : p.next? = some ⟨c, k⟩) {told : c.Outcome → α} (hk : ∀ o, (k o).result? = some (told o))
    (h : Handler σ) (s : σ) :
    (p.run h s).result = told (h c s).1 ∧ (p.run h s).state = (h c s).2 := by
  obtain ⟨hresult, hstate⟩ := run_of_next? h hp s
  obtain ⟨htold, hleft⟩ := result?_eq_some h (h c s).2 (hk (h c s).1)
  exact ⟨hresult.trans htold, hstate.trans hleft⟩

theorem Operation.next?_of_subject (settings : PlaybackSettings) {o : Operation} {n : SessionName}
    (hn : o.subject? = some n) :
    ∃ c k, c.subject? = some n ∧ (o.program settings).next? = some ⟨c, k⟩ ∧
      ∀ out, ∃ a, (k out).result? = some a := by
  cases o with
  | create course key => cases hn
  | get id =>
    refine ⟨.findSession id, _, hn, rfl, fun out => ?_⟩
    rcases out with e | _ | s <;> exact ⟨_, rfl⟩
  | start id =>
    refine ⟨.transitionById id .start, _, hn, rfl, fun out => ?_⟩
    rcases out with e | _ | _ <;> exact ⟨_, rfl⟩
  | finish id =>
    refine ⟨.transitionById id .finish, _, hn, rfl, fun out => ?_⟩
    rcases out with e | _ | _ <;> exact ⟨_, rfl⟩
  | event key e =>
    refine ⟨.transitionByKey key e.transition, _, hn, rfl, fun out => ?_⟩
    rcases out with err | _ | _ <;> exact ⟨_, rfl⟩

namespace Order

variable {o o' : Order} {n n' : SessionName} {t : Tables}

theorem serve_of_subject (settings : PlaybackSettings) (hn : o.operation.subject? = some n) :
    ∃ (told : Option Session → Operation.Outcome) (f : Session → Session),
      (∀ m : SessionName, ∀ s, m.means (f s) = m.means s) ∧
      ∀ t : Tables, t.sessions.WellFormed → o.serve settings t =
        ⟨o, t, { t with sessions := (t.sessions.change n.means f).2 },
          told (t.sessions.rows.find? n.means)⟩ := by
  obtain ⟨c, k, hc, hnext, hends⟩ := Operation.next?_of_subject settings hn
  choose tell htell using hends
  obtain ⟨told, f, hf, hanswer⟩ := Tables.answer_of_subject hc (o.around c)
  refine ⟨fun found => tell (told found), f, hf, fun t hwf => ?_⟩
  obtain ⟨hresult, hstate⟩ := Program.run_of_one_call hnext htell (Tables.handler o.around) t
  rw [Tables.handler, hanswer t hwf.distinct] at hresult hstate
  rw [serve, hresult, hstate]

/-- An order finds what it would have found before an order on another session, and so it is
answered alike. -/
theorem outcome_serve_of_apart (settings : PlaybackSettings) (hn : o.operation.subject? = some n)
    (hn' : o'.operation.subject? = some n') (hwf : t.sessions.WellFormed)
    (hapart : t.sessions.Apart n n') :
    (o'.serve settings (o.serve settings t).after).outcome = (o'.serve settings t).outcome := by
  have hafter := o.serve_wellFormed settings hwf
  obtain ⟨told, f, hf, hserve⟩ := serve_of_subject settings hn
  obtain ⟨told', f', _, hserve'⟩ := serve_of_subject settings hn'
  rw [hserve' _ hafter, hserve' t hwf, hserve t hwf]
  exact congrArg told' (SessionTable.find?_change_of_apart hf hapart)

theorem after_serve_of_apart (settings : PlaybackSettings) (hn : o.operation.subject? = some n)
    (hn' : o'.operation.subject? = some n') (hwf : t.sessions.WellFormed)
    (hapart : t.sessions.Apart n n') :
    (o'.serve settings (o.serve settings t).after).after =
      (o.serve settings (o'.serve settings t).after).after := by
  have hafter := o.serve_wellFormed settings hwf
  have hafter' := o'.serve_wellFormed settings hwf
  obtain ⟨told, f, hf, hserve⟩ := serve_of_subject settings hn
  obtain ⟨told', f', hf', hserve'⟩ := serve_of_subject settings hn'
  rw [hserve' _ hafter, hserve _ hafter', hserve t hwf, hserve' t hwf]
  exact congrArg (Tables.mk · t.quiz) (SessionTable.change_comm_of_apart hf hf' hapart)

end Order

/-- Operations on different sessions commute. In whatever state calls have left the tables, take two
operations that each read a session, start it, end it or report an event of its stream, and that do
not name the same stored session. Each is answered the same before the other one and after it, and
both orders leave the same tables. A name may belong to no session at all, and what an operation
meets, its time or a failure, only has to be the same in both orders. -/
theorem independent_operations_commute (settings : PlaybackSettings)
    (calls : List (Tables.Surroundings × Call)) (o o' : Order) (n n' : SessionName)
    (hn : o.operation.subject? = some n) (hn' : o'.operation.subject? = some n')
    (hapart : (Tables.answerAll calls .empty).sessions.Apart n n') :
    let t := Tables.answerAll calls .empty
    let first := o.serve settings t
    let first' := o'.serve settings t
    let second := o.serve settings first'.after
    let second' := o'.serve settings first.after
    second.outcome = first.outcome ∧ second'.outcome = first'.outcome ∧
      second.after = second'.after := by
  intro t first first' second second'
  have hwf : t.sessions.WellFormed :=
    Tables.answerAll_wellFormed SessionTable.empty_wellFormed calls
  exact ⟨Order.outcome_serve_of_apart settings hn' hn hwf hapart.symm,
    Order.outcome_serve_of_apart settings hn hn' hwf hapart,
    Order.after_serve_of_apart settings hn' hn hwf hapart.symm⟩

/-- One session is started by its number while the stream of another one ends. -/
theorem started_and_stopped_commute :
    let calm : Tables.Surroundings := ⟨⟨0, 0⟩, none, .ok ()⟩
    let calls : List (Tables.Surroundings × Call) :=
      [(calm, .insertPending ⟨1⟩ "k"), (calm, .insertPending ⟨1⟩ "l"),
      (calm, .transitionByKey "l" .start)]
    let start : Order := ⟨.start ⟨1⟩, fun _ => calm⟩
    let stop : Order := ⟨.event "l" .stop, fun _ => calm⟩
    let t := Tables.answerAll calls .empty
    (start.serve .standard (stop.serve .standard t).after).after =
      (stop.serve .standard (start.serve .standard t).after).after := by
  intro calm calls start stop t
  have hapart : (Tables.answerAll calls .empty).sessions.Apart (.ofId ⟨1⟩) (.ofKey "l") := by
    unfold SessionTable.Apart
    decide
  exact (independent_operations_commute .standard calls start stop _ _ rfl rfl hapart).2.2

end LiveLesson
