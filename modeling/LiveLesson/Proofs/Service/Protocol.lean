import LiveLesson.Service.Interleaving

/-!
What each operation asks of the world and in which order. A program obeys a protocol when, whatever
it is answered, each call is allowed after the exchanges before it and the result fits all of them.
The protocol of an operation is written down as two relations, and its program obeys them.
-/

namespace LiveLesson

namespace Program

variable {α : Type} {may : List Exchange → Call → Prop} {ends : List Exchange → α → Prop}

/-- Obeys a protocol after some exchanges. -/
def Obeys (may : List Exchange → Call → Prop) (ends : List Exchange → α → Prop) :
    List Exchange → Program α → Prop
  | xs, .done a => ends xs a
  | xs, .log _ p => p.Obeys may ends xs
  | xs, .call c k => may xs c ∧ ∀ o, (k o).Obeys may ends (xs ++ [⟨c, o⟩])

theorem Obeys.of_next? {xs : List Exchange} {p : Program α} (h : p.Obeys may ends xs) {c : Call}
    {k : c.Outcome → Program α} (hp : p.next? = some ⟨c, k⟩) :
    may xs c ∧ ∀ o, (k o).Obeys may ends (xs ++ [⟨c, o⟩]) := by
  induction p with
  | done a => cases hp
  | log e p ih => exact ih h hp
  | call c' k' => cases hp; exact h

theorem Obeys.of_result? {xs : List Exchange} {p : Program α} (h : p.Obeys may ends xs) {a : α}
    (hp : p.result? = some a) : ends xs a := by
  induction p with
  | done b => cases hp; exact h
  | log e p ih => exact ih h hp
  | call c k => cases hp

theorem Obeys.of_result?_eq_none {xs : List Exchange} {p : Program α} (h : p.Obeys may ends xs)
    (hp : p.result? = none) : ∃ c, may xs c := by
  induction p with
  | done b => cases hp
  | log e p ih => exact ih h hp
  | call c k => exact ⟨c, h.1⟩

end Program

namespace Operation

inductive MayCall : Operation → List Exchange → Call → Prop
  | store {course key} : MayCall (.create course key) [] (.insertPending course key)
  | provision {course key s} :
    MayCall (.create course key) [⟨.insertPending course key, .ok s⟩] (.provision key)
  | rollBack {course key s e} :
    MayCall (.create course key) [⟨.insertPending course key, .ok s⟩, ⟨.provision key, .error e⟩]
      (.deleteSession s.id)
  | record {course key s u} :
    MayCall (.create course key) [⟨.insertPending course key, .ok s⟩, ⟨.provision key, .ok u⟩]
      (.markProvisioned s.id)
  | find {id} : MayCall (.get id) [] (.findSession id)
  | start {id} : MayCall (.start id) [] (.transitionById id .start)
  | finish {id} : MayCall (.finish id) [] (.transitionById id .finish)
  | event {key e} : MayCall (.event key e) [] (.transitionByKey key e.transition)

inductive Ends (settings : PlaybackSettings) : Operation → List Exchange → Outcome → Prop
  | unstored {course key e} :
    Ends settings (.create course key) [⟨.insertPending course key, .error e⟩] (.error (.store e))
  | rolledBack {course key s e o} :
    Ends settings (.create course key)
      [⟨.insertPending course key, .ok s⟩, ⟨.provision key, .error e⟩, ⟨.deleteSession s.id, o⟩]
      (.error (.provisioning key e))
  | created {course key s u o} :
    Ends settings (.create course key)
      [⟨.insertPending course key, .ok s⟩, ⟨.provision key, .ok u⟩, ⟨.markProvisioned s.id, o⟩]
      (.ok (.session (s.view settings)))
  | unread {id e} : Ends settings (.get id) [⟨.findSession id, .error e⟩] (.error (.store e))
  | missing {id} : Ends settings (.get id) [⟨.findSession id, .ok none⟩] (.error (.notFound id))
  | found {id s} :
    Ends settings (.get id) [⟨.findSession id, .ok (some s)⟩] (.ok (.session (s.view settings)))
  | startFailed {id e} :
    Ends settings (.start id) [⟨.transitionById id .start, .error e⟩] (.error (.store e))
  | startRefused {id} :
    Ends settings (.start id) [⟨.transitionById id .start, .ok false⟩]
      (.error (.invalidTransition id .pending))
  | started {id} : Ends settings (.start id) [⟨.transitionById id .start, .ok true⟩] (.ok .moved)
  | finishFailed {id e} :
    Ends settings (.finish id) [⟨.transitionById id .finish, .error e⟩] (.error (.store e))
  | finishRefused {id} :
    Ends settings (.finish id) [⟨.transitionById id .finish, .ok false⟩]
      (.error (.invalidTransition id .live))
  | finished {id} : Ends settings (.finish id) [⟨.transitionById id .finish, .ok true⟩] (.ok .moved)
  | eventFailed {key v e} :
    Ends settings (.event key v) [⟨.transitionByKey key v.transition, .error e⟩] (.error (.store e))
  | ignored {key v} :
    Ends settings (.event key v) [⟨.transitionByKey key v.transition, .ok false⟩]
      (.ok (.callback .ignored))
  | applied {key v} :
    Ends settings (.event key v) [⟨.transitionByKey key v.transition, .ok true⟩]
      (.ok (.callback (.applied v.transition)))

theorem create_obeys (settings : PlaybackSettings) (course : CourseId) (key : String) :
    ((create course key).program settings).Obeys (create course key).MayCall
      ((create course key).Ends settings) [] := by
  refine And.intro .store fun o => ?_
  cases o with
  | error e => exact .unstored
  | ok s =>
    refine And.intro .provision fun o => ?_
    cases o with
    | error e =>
      refine And.intro .rollBack fun o => ?_
      rcases o with e' | (_ | _)
      · exact .rolledBack
      · exact .rolledBack
      · exact .rolledBack
    | ok u =>
      refine And.intro .record fun o => ?_
      cases o with
      | error e => exact .created
      | ok b => exact .created

theorem program_obeys (settings : PlaybackSettings) (o : Operation) :
    (o.program settings).Obeys o.MayCall (o.Ends settings) [] := by
  cases o with
  | create course key => exact create_obeys settings course key
  | get id =>
    refine And.intro .find fun o => ?_
    rcases o with e | (_ | s)
    · exact .unread
    · exact .missing
    · exact .found
  | start id =>
    refine And.intro .start fun o => ?_
    rcases o with e | (_ | _)
    · exact .startFailed
    · exact .startRefused
    · exact .started
  | finish id =>
    refine And.intro .finish fun o => ?_
    rcases o with e | (_ | _)
    · exact .finishFailed
    · exact .finishRefused
    · exact .finished
  | event key e =>
    refine And.intro .event fun o => ?_
    rcases o with e | (_ | _)
    · exact .eventFailed
    · exact .ignored
    · exact .applied

variable {settings : PlaybackSettings} {xs : List Exchange} {x : Exchange}

theorem Ends.ne_nil {o : Operation} {r : Outcome} (h : Ends settings o xs r) : xs ≠ [] := by
  cases h <;> exact List.cons_ne_nil _ _

theorem result?_program (settings : PlaybackSettings) (o : Operation) :
    (o.program settings).result? = none := by
  cases hresult : (o.program settings).result? with
  | none => rfl
  | some r => exact absurd rfl ((o.program_obeys settings).of_result? hresult).ne_nil

theorem Ends.last_of_start {id : SessionId} {v : Answer}
    (h : Ends settings (.start id) (xs ++ [x]) (.ok v)) :
    x = ⟨.transitionById id .start, .ok true⟩ := by
  generalize hys : xs ++ [x] = ys at h
  cases h with
  | started => simpa using congrArg List.getLast? hys

theorem Ends.last_of_finish {id : SessionId} {v : Answer}
    (h : Ends settings (.finish id) (xs ++ [x]) (.ok v)) :
    x = ⟨.transitionById id .finish, .ok true⟩ := by
  generalize hys : xs ++ [x] = ys at h
  cases h with
  | finished => simpa using congrArg List.getLast? hys

theorem Ends.last_of_applied {key : String} {v : StreamEvent} {t : Transition}
    (h : Ends settings (.event key v) (xs ++ [x]) (.ok (.callback (.applied t)))) :
    t = v.transition ∧ x = ⟨.transitionByKey key t, .ok true⟩ := by
  generalize hys : xs ++ [x] = ys at h
  cases h with
  | applied => exact ⟨rfl, by simpa using congrArg List.getLast? hys⟩

theorem MayCall.of_transitionById {o : Operation} {id : SessionId} {t : Transition}
    (h : o.MayCall xs (.transitionById id t)) :
    xs = [] ∧ ((t = .start ∧ o = .start id) ∨ (t = .finish ∧ o = .finish id)) := by
  cases h with
  | start => exact ⟨rfl, .inl ⟨rfl, rfl⟩⟩
  | finish => exact ⟨rfl, .inr ⟨rfl, rfl⟩⟩

theorem MayCall.of_transitionByKey {o : Operation} {key : String} {t : Transition}
    (h : o.MayCall xs (.transitionByKey key t)) :
    xs = [] ∧ ∃ v, v.transition = t ∧ o = .event key v := by
  generalize hc : Call.transitionByKey key t = c at h
  cases h with
  | event =>
    cases hc
    exact ⟨rfl, _, rfl, rfl⟩
  | _ => cases hc

theorem MayCall.of_deleteSession {o : Operation} {id : SessionId}
    (h : o.MayCall xs (.deleteSession id)) :
    ∃ course key s error, o = .create course key ∧ s.id = id ∧
      xs = [⟨.insertPending course key, .ok s⟩, ⟨.provision key, .error error⟩] := by
  cases h with
  | rollBack => exact ⟨_, _, _, _, rfl, rfl, rfl⟩

theorem Ends.last_of_get {id : SessionId} {r : Outcome}
    (h : Ends settings (.get id) (xs ++ [x]) r) :
    (∃ err, r = .error (.store err)) ∨
      ∃ found : Option Session, x = ⟨.findSession id, .ok found⟩ ∧
        r = found.elim (.error (.notFound id)) fun s => .ok (.session (s.view settings)) := by
  generalize hys : xs ++ [x] = ys at h
  cases h with
  | unread => exact .inl ⟨_, rfl⟩
  | missing => exact .inr ⟨none, by simpa using congrArg List.getLast? hys, rfl⟩
  | found => exact .inr ⟨some _, by simpa using congrArg List.getLast? hys, rfl⟩

end Operation

/-- Nobody has been told anything when a run begins, so every outcome is told in a turn with a
call. -/
theorem System.result?_begin {σ : Type} {settings : PlaybackSettings} {operations : List Operation}
    {s : σ} {p : Process} (hp : p ∈ (System.begin settings operations s).processes) :
    p.rest.result? = none := by
  obtain ⟨o, -, rfl⟩ := List.mem_map.1 hp
  exact o.result?_program settings

end LiveLesson
