import LiveLesson.Proofs.Service.SameAnswers
import LiveLesson.Proofs.Store.Correspondence

/-!
Calls on the tables and corresponding calls on a database that keeps corresponding sessions: the
answers correspond, and so do the sessions afterwards, if the identifiers that are given out do.
-/

namespace LiveLesson

/-- The same error, or each store's own when a key is taken. -/
inductive StoreError.Alike : StoreError → StoreError → Prop
  | same (e : StoreError) : Alike e e
  | duplicate (message : String) : Alike SessionTable.duplicateKey (.database message)

/-- The calls that operations on sessions make, under corresponding identifiers. -/
inductive Call.Alike (ids : Equiv.Perm SessionId) : Call → Call → Prop
  | insertPending (course : CourseId) (key : String) :
    Alike ids (.insertPending course key) (.insertPending course key)
  | findSession {id id' : SessionId} : id' = ids id → Alike ids (.findSession id) (.findSession id')
  | markProvisioned {id id' : SessionId} :
    id' = ids id → Alike ids (.markProvisioned id) (.markProvisioned id')
  | transitionById {id id' : SessionId} (t : Transition) : id' = ids id →
    Alike ids (.transitionById id t) (.transitionById id' t)
  | transitionByKey (key : String) (t : Transition) :
    Alike ids (.transitionByKey key t) (.transitionByKey key t)
  | deleteSession {id id' : SessionId} :
    id' = ids id → Alike ids (.deleteSession id) (.deleteSession id')
  | provision (key : String) : Alike ids (.provision key) (.provision key)

namespace Call.Alike

variable {ids : Equiv.Perm SessionId} {c c' : Call}

theorem concernsSessions (h : c.Alike ids c') : c'.concernsSessions = true := by
  cases h <;> rfl

theorem draws (h : c.Alike ids c') {around around' : Tables.Surroundings}
    (hfault : around'.fault = around.fault) : c'.draws around' = c.draws around := by
  rw [Call.draws, Call.draws, hfault]
  cases h <;> rfl

end Call.Alike

variable (m : Correspondence)

inductive Exchange.Alike : Exchange → Exchange → Prop
  | inserted {course key s s'} : s.Alike m s' →
    Alike ⟨.insertPending course key, .ok s⟩ ⟨.insertPending course key, .ok s'⟩
  | notInserted {course key} {e e' : StoreError} : e.Alike e' →
    Alike ⟨.insertPending course key, .error e⟩ ⟨.insertPending course key, .error e'⟩
  | found {id id'} {o o' : Option Session} : id' = m.ids id → Option.Rel (Session.Alike m) o o' →
    Alike ⟨.findSession id, .ok o⟩ ⟨.findSession id', .ok o'⟩
  | notFound {id id' e} : id' = m.ids id →
    Alike ⟨.findSession id, .error e⟩ ⟨.findSession id', .error e⟩
  | provisioned {id id'} (o : Except StoreError Bool) : id' = m.ids id →
    Alike ⟨.markProvisioned id, o⟩ ⟨.markProvisioned id', o⟩
  | movedById {id id' t} (o : Except StoreError Bool) : id' = m.ids id →
    Alike ⟨.transitionById id t, o⟩ ⟨.transitionById id' t, o⟩
  | movedByKey {key t} (o : Except StoreError Bool) :
    Alike ⟨.transitionByKey key t, o⟩ ⟨.transitionByKey key t, o⟩
  | deleted {id id'} (o : Except StoreError Bool) : id' = m.ids id →
    Alike ⟨.deleteSession id, o⟩ ⟨.deleteSession id', o⟩
  | taken {key} (o : Except MediaError Unit) : Alike ⟨.provision key, o⟩ ⟨.provision key, o⟩

structure Tables.Surroundings.Alike (moments : Timestamp → Timestamp → Prop)
    (around around' : Surroundings) :
    Prop where
  now : moments around.now around'.now
  fault : around'.fault = around.fault
  media : around'.media = around.media

namespace Tables

variable {m} {t u : Tables} {around around' : Surroundings} {c c' : Call}

theorem isAdded_alike (h : t.sessions.Alike m u.sessions) (ha : around.Alike m.moments around')
    (hc : c.Alike m.ids c') :
    Exchange.isAdded ⟨c', (answer around' c' u).1⟩ =
      Exchange.isAdded ⟨c, (answer around c t).1⟩ := by
  cases hc with
  | insertPending course key =>
    simp only [answer, fault?, ha.fault]
    cases around.fault with
    | some e => rfl
    | none =>
      have htaken := h.taken key
      simp only [perform, SessionTable.insertPending, htaken]
      split <;> rfl
  | _ => rfl

theorem insertPending_alike (h : t.sessions.Alike m u.sessions) {now now' : Timestamp}
    (hnow : m.moments now now') (course : CourseId) (key : String)
    (hid : (t.sessions.rows.any fun s => s.streamKey == key) = false →
      m.ids ⟨t.sessions.lastId + 1⟩ = ⟨u.sessions.lastId + 1⟩) :
    Exchange.Alike m ⟨.insertPending course key, (t.sessions.insertPending course key now).1⟩
      ⟨.insertPending course key, (u.sessions.insertPending course key now').1⟩ ∧
      (t.sessions.insertPending course key now).2.Alike m
      (u.sessions.insertPending course key now').2 := by
  simp only [SessionTable.insertPending, h.taken key]
  cases htaken : t.sessions.rows.any fun s => s.streamKey == key with
  | true => exact ⟨.notInserted (.same _), h⟩
  | false =>
    have hs := Session.Alike.pending (hid htaken).symm course key hnow
    exact ⟨.inserted hs, List.rel_append h (.cons hs .nil)⟩

theorem answer_alike (h : t.sessions.Alike m u.sessions) (ha : around.Alike m.moments around')
    (hc : c.Alike m.ids c') (hid : Exchange.isAdded ⟨c, (answer around c t).1⟩ = true →
      m.ids ⟨t.sessions.lastId + 1⟩ = ⟨u.sessions.lastId + 1⟩) :
    Exchange.Alike m ⟨c, (answer around c t).1⟩ ⟨c', (answer around' c' u).1⟩ ∧
      (answer around c t).2.sessions.Alike m (answer around' c' u).2.sessions := by
  simp only [answer] at hid ⊢
  cases hc with
  | insertPending course key =>
    simp only [fault?, ha.fault] at hid ⊢
    cases hfault : around.fault with
    | some e => exact ⟨.notInserted (.same e), h⟩
    | none =>
      rw [hfault] at hid
      refine insertPending_alike h ha.now course key fun hfree => hid ?_
      simp only [perform, SessionTable.insertPending, hfree]
      rfl
  | @findSession id _ heq =>
    simp only [fault?, ha.fault]
    cases around.fault with
    | some e => exact ⟨.notFound heq, h⟩
    | none => exact ⟨.found heq (heq ▸ h.find? id), h⟩
  | @markProvisioned id _ heq =>
    simp only [fault?, ha.fault]
    cases around.fault with
    | some e => exact ⟨.provisioned _ heq, h⟩
    | none =>
      obtain ⟨htold, hrows⟩ := heq ▸ h.markProvisioned id ha.now
      simp only [perform, withSessions, htold]
      exact ⟨.provisioned _ heq, hrows⟩
  | @transitionById id _ tr heq =>
    simp only [fault?, ha.fault]
    cases around.fault with
    | some e => exact ⟨.movedById _ heq, h⟩
    | none =>
      obtain ⟨htold, hrows⟩ := h.transition (fun hs => heq ▸ hs.beq_id id) tr ha.now
      simp only [perform, withSessions, SessionTable.transitionById, htold]
      exact ⟨.movedById _ heq, hrows⟩
  | transitionByKey key tr =>
    simp only [fault?, ha.fault]
    cases around.fault with
    | some e => exact ⟨.movedByKey _, h⟩
    | none =>
      obtain ⟨htold, hrows⟩ := h.transition (fun hs => hs.beq_streamKey key) tr ha.now
      simp only [perform, withSessions, SessionTable.transitionByKey, htold]
      exact ⟨.movedByKey _, hrows⟩
  | @deleteSession id _ heq =>
    simp only [fault?, ha.fault]
    cases around.fault with
    | some e => exact ⟨.deleted _ heq, h⟩
    | none =>
      obtain ⟨htold, hrows⟩ := heq ▸ h.delete id
      simp only [perform, withSessions, htold]
      exact ⟨.deleted _ heq, hrows⟩
  | provision key =>
    simp only [fault?, perform, ha.media]
    exact ⟨.taken _, h⟩

end Tables

/-- Over a database the error for a taken key is another one, and is a failure all the same. -/
theorem Exchange.Alike.of_sameOutcome {m : Correspondence} {x : Exchange} {c : Call}
    {o o' : c.Outcome} (h : x.Alike m ⟨c, o⟩) (ho : c.SameOutcome o o') : x.Alike m ⟨c, o'⟩ := by
  cases c with
  | insertPending course key =>
    obtain rfl | ⟨rfl, message, rfl⟩ := ho
    · exact h
    · cases h with
      | notInserted he =>
        cases he with
        | same => exact .notInserted (.duplicate message)
  | _ =>
    obtain rfl : o' = o := ho
    exact h

theorem Call.SameOutcome.isAdded {c : Call} {o o' : c.Outcome} (h : c.SameOutcome o o') :
    Exchange.isAdded ⟨c, o'⟩ = Exchange.isAdded ⟨c, o⟩ := by
  cases c with
  | insertPending course key =>
    obtain rfl | ⟨rfl, message, rfl⟩ := h
    · rfl
    · rfl
  | _ => rfl

end LiveLesson
