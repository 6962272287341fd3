import LiveLesson.Proofs.Store.TableStep
import LiveLesson.Service.Interleaving

/-!
What one call does to the session under one identifier, told together with the call and its answer:
a session changes only by a call that meant it and said so.
-/

namespace LiveLesson

/-- A call asked that the session found under an identifier goes through a transition, by the
identifier or by the session's key, and was answered without an error. -/
inductive Exchange.Asks (id : SessionId) (found : Option Session) (t : Transition) (moved : Bool) :
    Exchange → Prop
  | byId : Asks id found t moved ⟨.transitionById id t, .ok moved⟩
  | byKey {s : Session} {key : String} : found = some s → s.streamKey = key →
    Asks id found t moved ⟨.transitionByKey key t, .ok moved⟩

/-- What an exchange does to the session under an identifier: what was found before it and what is
found after it. -/
inductive Fate (now : Timestamp) (lastId : Int) (id : SessionId) :
    Exchange → Option Session → Option Session → Prop
  | kept {x : Exchange} {o : Option Session} : (∀ t, ¬ x.Asks id o t true) →
    x ≠ ⟨.deleteSession id, .ok true⟩ → Fate now lastId id x o o
  | added (course : CourseId) (key : String) : lastId < id.value →
    Fate now lastId id ⟨.insertPending course key, .ok (Session.pending id course key now)⟩ none
      (some (Session.pending id course key now))
  | provisioned (s : Session) : s.provisionedAt = none →
    Fate now lastId id ⟨.markProvisioned id, .ok true⟩ (some s)
      (some { s with provisionedAt := some now })
  | movedById (s : Session) (t : Transition) : s.status = t.source →
    Fate now lastId id ⟨.transitionById id t, .ok true⟩ (some s) (some (s.after t now))
  | movedByKey (s : Session) (t : Transition) : s.status = t.source →
    Fate now lastId id ⟨.transitionByKey s.streamKey t, .ok true⟩ (some s) (some (s.after t now))
  | removed (s : Session) : Fate now lastId id ⟨.deleteSession id, .ok true⟩ (some s) none

/-- A session's status changes by the transition that was asked for, or not at all. -/
theorem Fate.moved_or_not {now : Timestamp} {lastId : Int} {id : SessionId} {x : Exchange}
    {o o' : Option Session} (h : Fate now lastId id x o o') :
    (∃ s s' t, o = some s ∧ o' = some s' ∧ s.status = t.source ∧ s'.status = t.target ∧
      ∀ u, x.Asks id o u true ↔ u = t) ∨
    ((∀ u, ¬ x.Asks id o u true) ∧ ∀ s', o' = some s' →
      (lastId < id.value ∧ s'.status = .pending) ∨ ∃ s, o = some s ∧ s'.status = s.status) := by
  cases h with
  | kept hnot _ => exact .inr ⟨hnot, fun s' hs' => .inr ⟨s', hs', rfl⟩⟩
  | added course key hlast =>
    refine .inr ⟨fun _ h => (by cases h), fun s' hs' => .inl ⟨hlast, ?_⟩⟩
    cases hs'
    rfl
  | provisioned s hnone =>
    refine .inr ⟨fun _ h => (by cases h), fun s' hs' => .inr ⟨s, rfl, ?_⟩⟩
    cases hs'
    rfl
  | movedById s t hsource =>
    refine .inl ⟨s, _, t, rfl, rfl, hsource, s.after_status t now, fun u => ⟨fun hasks => ?_, ?_⟩⟩
    · cases hasks
      rfl
    · rintro rfl
      exact .byId
  | movedByKey s t hsource =>
    refine .inl ⟨s, _, t, rfl, rfl, hsource, s.after_status t now, fun u => ⟨fun hasks => ?_, ?_⟩⟩
    · cases hasks
      rfl
    · rintro rfl
      exact .byKey rfl rfl
  | removed s => exact .inr ⟨fun _ h => (by cases h), fun _ h => (by cases h)⟩

theorem Fate.gone_iff {now : Timestamp} {lastId : Int} {id : SessionId} {x : Exchange} {s : Session}
    {o' : Option Session} (h : Fate now lastId id x (some s) o') :
    o' = none ↔ x = ⟨.deleteSession id, .ok true⟩ := by
  cases h with
  | kept _ hnot => exact ⟨fun h => (by cases h), fun h => absurd h hnot⟩
  | provisioned hnone => exact ⟨fun h => (by cases h), fun h => (by cases h)⟩
  | movedById t hsource => exact ⟨fun h => (by cases h), fun h => (by cases h)⟩
  | movedByKey t hsource => exact ⟨fun h => (by cases h), fun h => (by cases h)⟩
  | removed => exact ⟨fun _ => rfl, fun _ => rfl⟩

theorem Fate.removed_cases {now : Timestamp} {lastId : Int} {id : SessionId} {o o' : Option Session}
    (h : Fate now lastId id ⟨.deleteSession id, .ok true⟩ o o') :
    (∃ s, o = some s) ∧ o' = none := by
  generalize hx : (⟨.deleteSession id, .ok true⟩ : Exchange) = x at h
  cases h with
  | kept _ hnot => exact absurd hx.symm hnot
  | removed s => exact ⟨⟨s, rfl⟩, rfl⟩
  | _ => cases hx

theorem Fate.still_gone {now : Timestamp} {lastId : Int} {id : SessionId} {x : Exchange}
    {o' : Option Session} (h : Fate now lastId id x none o') (hle : id.value ≤ lastId) :
    o' = none := by
  cases h with
  | kept _ _ => rfl
  | added course key hlt => exact absurd hle (Int.not_le.2 hlt)

theorem Fate.key_of_found {now : Timestamp} {lastId : Int} {id : SessionId} {x : Exchange}
    {o : Option Session} {s' : Session} (h : Fate now lastId id x o (some s')) :
    (∃ s, o = some s ∧ s.streamKey = s'.streamKey) ∨
    ∃ course, x.call = .insertPending course s'.streamKey := by
  cases h with
  | kept => exact .inl ⟨s', rfl, rfl⟩
  | added course key => exact .inr ⟨course, rfl⟩
  | provisioned s => exact .inl ⟨s, rfl, rfl⟩
  | movedById s t => exact .inl ⟨s, rfl, (s.after_streamKey t now).symm⟩
  | movedByKey s t => exact .inl ⟨s, rfl, (s.after_streamKey t now).symm⟩

namespace SessionTable

variable {t : SessionTable}

theorem insertPending_fate (h : t.WellFormed) (course : CourseId) (key : String) (now : Timestamp)
    (id : SessionId) :
    Fate now t.lastId id ⟨.insertPending course key, (t.insertPending course key now).1⟩
      (t.find? id)
      ((t.insertPending course key now).2.find? id) := by
  by_cases htaken : ∃ s ∈ t.rows, s.streamKey = key
  · rw [insertPending_of_taken htaken]
    exact .kept (fun _ h => by cases h) fun h => by cases h
  · have hfresh : ∀ s ∈ t.rows, s.streamKey ≠ key := by simpa using htaken
    rw [insertPending_of_fresh hfresh]
    by_cases hid : id = ⟨t.lastId + 1⟩
    · have hnone : t.find? id = none := find?_eq_none_iff.2 fun s hs heq =>
        h.fresh s hs (congrArg Id.value (heq.trans hid))
      have hnew : find? ⟨t.lastId + 1, t.rows ++ [Session.pending ⟨t.lastId + 1⟩ course key now]⟩
          id =
          some (Session.pending ⟨t.lastId + 1⟩ course key now) := by
        rw [find?, List.find?_append, ← find?, hnone]
        simp [Session.pending, hid]
      rw [hnone, hnew, ← hid]
      exact .added course key (by rw [hid]; exact Int.lt_succ _)
    · have hsame : find? ⟨t.lastId + 1, t.rows ++ [Session.pending ⟨t.lastId + 1⟩ course key now]⟩
          id =
          t.find? id := by
        rw [find?, List.find?_append, ← find?]
        have hne : (⟨t.lastId + 1⟩ : SessionId) ≠ id := fun heq => hid heq.symm
        simp [Session.pending, hne]
      rw [hsame]
      exact .kept (fun _ h => by cases h) fun h => by cases h

theorem change_fate (h : t.WellFormed) {now : Timestamp} {p : Session → Bool}
    (hp : AtMostOne p t.rows) (f : Session → Session) (hf : ∀ s, (f s).id = s.id)
    (x : Bool → Exchange) (hmeant : ∀ s, p s = true →
      Fate now t.lastId s.id (x true) (some s) (some (f s))) (hother :
      ∀ s ∈ t.rows, p s = true → ∀ id ≠ s.id, ∀ tr, ¬ (x true).Asks id (t.find? id) tr true)
    (hnone : ∀ id o tr, ¬ (x false).Asks id o tr true)
    (hdelete : ∀ b id, x b ≠ ⟨.deleteSession id, .ok true⟩) (id : SessionId) :
    Fate now t.lastId id (x (t.change p f).1) (t.find? id) ((t.change p f).2.find? id) := by
  rcases change_cases h.distinct hp hf with ⟨s, hs, hps, htrue, hfind⟩ | ⟨_, hsame⟩
  · rw [htrue, hfind]
    split
    · next hid =>
      subst hid
      rw [hs]
      exact hmeant s hps
    · next hid => exact .kept (hother s (mem_of_find? hs) hps id hid) (hdelete true id)
  · rw [hsame]
    exact .kept (hnone id _) (hdelete false id)

theorem markProvisioned_fate (h : t.WellFormed) (id' : SessionId) (now : Timestamp)
    (id : SessionId) :
    Fate now t.lastId id ⟨.markProvisioned id', .ok (t.markProvisioned id' now).1⟩ (t.find? id)
      ((t.markProvisioned id' now).2.find? id) := by
  rw [markProvisioned_eq h.distinct]
  refine change_fate h (h.distinct.atMostOne_id id' _)
    (fun s => { s with provisionedAt := some now }) (fun s => rfl)
    (fun b => ⟨.markProvisioned id', .ok b⟩) (fun s hs => ?_)
    (fun _ _ _ _ _ _ h => by cases h) (fun _ _ _ h => by cases h) (fun _ _ h => by cases h) id
  simp only [Bool.and_eq_true, beq_iff_eq, Option.isNone_iff_eq_none] at hs
  obtain ⟨rfl, hnone⟩ := hs
  exact .provisioned s hnone

theorem transitionById_fate (h : t.WellFormed) (id' : SessionId) (tr : Transition) (now : Timestamp)
    (id : SessionId) :
    Fate now t.lastId id ⟨.transitionById id' tr, .ok (t.transitionById id' tr now).1⟩ (t.find? id)
      ((t.transitionById id' tr now).2.find? id) := by
  rw [transitionById_eq h.distinct]
  refine change_fate h (h.distinct.atMostOne_id id' _) (fun s => s.after tr now)
    (fun s => s.after_id tr now) (fun b => ⟨.transitionById id' tr, .ok b⟩) (fun s hs => ?_)
    (fun s _ hps id hne tr' hasks => ?_) (fun _ _ _ h => by cases h) (fun _ _ h => by cases h) id
  · simp only [Bool.and_eq_true, beq_iff_eq] at hs
    obtain ⟨rfl, hsource⟩ := hs
    exact .movedById s tr hsource
  · simp only [Bool.and_eq_true, beq_iff_eq] at hps
    cases hasks
    exact hne hps.1.symm

theorem transitionByKey_fate (h : t.WellFormed) (key : String) (tr : Transition) (now : Timestamp)
    (id : SessionId) :
    Fate now t.lastId id ⟨.transitionByKey key tr, .ok (t.transitionByKey key tr now).1⟩
      (t.find? id)
      ((t.transitionByKey key tr now).2.find? id) := by
  rw [transitionByKey_eq h.distinct]
  refine change_fate h (h.distinct.atMostOne_key key _) (fun s => s.after tr now)
    (fun s => s.after_id tr now) (fun b => ⟨.transitionByKey key tr, .ok b⟩) (fun s hs => ?_)
    (fun s hs hps id hne tr' hasks => ?_) (fun _ _ _ h => by cases h) (fun _ _ h => by cases h) id
  · simp only [Bool.and_eq_true, beq_iff_eq] at hs
    obtain ⟨rfl, hsource⟩ := hs
    exact .movedByKey s tr hsource
  · simp only [Bool.and_eq_true, beq_iff_eq] at hps
    cases hasks with
    | byKey hr hkey =>
      have hsame := h.distinct.eq_of_key hs (mem_of_find? hr) (hps.1.trans hkey.symm)
      exact hne (hsame ▸ (id_of_find? hr).symm)

theorem delete_fate (now : Timestamp) (t : SessionTable) (id' id : SessionId) :
    Fate now t.lastId id ⟨.deleteSession id', .ok (t.delete id').1⟩ (t.find? id)
      ((t.delete id').2.find? id) := by
  rw [find?_delete]
  split
  · next hid =>
    subst hid
    cases hfind : t.find? id with
    | none =>
      have hfalse : (t.delete id).1 = false := by
        rw [delete_eq]
        simpa using find?_eq_none_iff.1 hfind
      rw [hfalse]
      exact .kept (fun _ h => by cases h) fun h => by cases h
    | some s =>
      have hany : (t.delete id).1 = true := by
        rw [delete_eq]
        exact List.any_eq_true.2 ⟨s, mem_of_find? hfind, by simp [id_of_find? hfind]⟩
      rw [hany]
      exact .removed s
  · next hid =>
    refine .kept (fun _ h => by cases h) fun h => hid ?_
    simpa using (congrArg Exchange.call h).symm

end SessionTable

namespace Tables

theorem answer_fate {t : Tables} (h : t.sessions.WellFormed) (around : Surroundings) (c : Call)
    (id : SessionId) :
    Fate around.now t.sessions.lastId id ⟨c, (answer around c t).1⟩ (t.sessions.find? id)
      ((answer around c t).2.sessions.find? id) := by
  unfold answer
  cases hfault : fault? around c with
  | some e => exact .kept (fun _ h => by cases h) fun h => by cases h
  | none =>
    cases c with
    | insertPending course key => exact SessionTable.insertPending_fate h course key _ id
    | markProvisioned id' => exact SessionTable.markProvisioned_fate h id' _ id
    | transitionById id' tr => exact SessionTable.transitionById_fate h id' tr _ id
    | transitionByKey key tr => exact SessionTable.transitionByKey_fate h key tr _ id
    | deleteSession id' => exact SessionTable.delete_fate _ _ id' id
    | _ => exact .kept (fun _ h => by cases h) fun h => by cases h

theorem answer_asks {t : Tables} (h : t.sessions.WellFormed) {around : Surroundings} {c : Call}
    {id : SessionId} {s : Session} (hs : t.sessions.find? id = some s) {tr : Transition}
    {moved : Bool} (hasks : Exchange.Asks id (some s) tr moved ⟨c, (answer around c t).1⟩) :
    moved = (s.status == tr.source) := by
  have hmem := SessionTable.mem_of_find? hs
  generalize ho : (answer around c t).1 = o at hasks
  unfold answer at ho
  cases hfault : fault? around c with
  | some e =>
    rw [hfault] at ho
    subst ho
    cases hasks
  | none =>
    rw [hfault] at ho
    cases hasks with
    | byId =>
      rw [← Except.ok.inj ho, SessionTable.transitionById_eq h.distinct]
      exact any_and_of_unique hmem (by simpa using SessionTable.id_of_find? hs) fun r hr hid =>
        h.distinct.eq_of_id hr hmem (by rw [SessionTable.id_of_find? hs]; simpa using hid)
    | byKey hsame hkey =>
      obtain rfl := Option.some.inj hsame
      rw [← Except.ok.inj ho, SessionTable.transitionByKey_eq h.distinct]
      exact any_and_of_unique hmem (by simpa using hkey) fun r hr hid =>
        h.distinct.eq_of_key hr hmem (by rw [hkey]; simpa using hid)

theorem key_of_answer {t : Tables} (hwf : t.sessions.WellFormed) (around : Surroundings) (c : Call)
    {s' : Session} (hs' : s' ∈ (answer around c t).2.sessions.rows) :
    (∃ s ∈ t.sessions.rows, s.streamKey = s'.streamKey) ∨
    ∃ course, c = .insertPending course s'.streamKey := by
  have hfound :=
    (SessionTable.find?_eq_some_iff (answer_wellFormed hwf around c).distinct).2 ⟨hs', rfl⟩
  have hfate := answer_fate hwf around c s'.id
  rw [hfound] at hfate
  rcases hfate.key_of_found with ⟨s, hs, hkey⟩ | ⟨course, hcall⟩
  · exact .inl ⟨s, SessionTable.mem_of_find? hs, hkey⟩
  · exact .inr ⟨course, hcall⟩

end Tables

end LiveLesson
