import LiveLesson.Proofs.Session.Life
import LiveLesson.Proofs.Store.SessionTable
import LiveLesson.Service.Tables

/-!
What one call can do to the session table: add a session under a new identifier and a new key,
change one session, or remove one. All that is kept from call to call follows from these three
cases.
-/

namespace LiveLesson

namespace SessionTable

/-- The state of a table after one call at a given moment. -/
inductive Step (now : Timestamp) (t : SessionTable) : SessionTable → Prop
  | added (course : CourseId) (key : String) : (∀ s ∈ t.rows, s.streamKey ≠ key) →
    Step now t ⟨t.lastId + 1, t.rows ++ [Session.pending ⟨t.lastId + 1⟩ course key now]⟩
  | changed (id : SessionId) (f : Session → Session) :
    (∀ s ∈ t.rows, s.id = id → Session.Advance now s (f s)) → (∀ s ∈ t.rows, s.id ≠ id → f s = s) →
    Step now t { t with rows := t.rows.map f }
  | removed (id : SessionId) : Step now t { t with rows := t.rows.filter fun s => s.id != id }

/-- Identifiers count up from one in the order of the rows and none is beyond the last one given
out; no two stream keys are equal; the moments of each session fit its status. -/
structure WellFormed (t : SessionTable) : Prop where
  lastId : 0 ≤ t.lastId
  bounds : ∀ s ∈ t.rows, 1 ≤ s.id.value ∧ s.id.value ≤ t.lastId
  increasing : t.rows.Pairwise fun a b => a.id.value < b.id.value
  keys : t.rows.Pairwise fun a b => a.streamKey ≠ b.streamKey
  coherent : ∀ s ∈ t.rows, s.IsCoherent

variable {t t' : SessionTable} {now : Timestamp}

theorem empty_wellFormed : empty.WellFormed where
  lastId := Int.le_refl 0
  bounds := by simp [empty]
  increasing := List.Pairwise.nil
  keys := List.Pairwise.nil
  coherent := by simp [empty]

theorem WellFormed.distinct (h : t.WellFormed) : Distinct t.rows where
  ids := h.increasing.imp fun hlt heq => by simp [heq] at hlt
  keys := h.keys

theorem WellFormed.fresh (h : t.WellFormed) : ∀ s ∈ t.rows, s.id.value ≠ t.lastId + 1 := by
  intro s hs heq
  have hbounds := h.bounds s hs
  omega

theorem WellFormed.of_lastId_le (h : t.WellFormed) {l : Int} (hl : t.lastId ≤ l) :
    WellFormed ⟨l, t.rows⟩ where
  lastId := Int.le_trans h.lastId hl
  bounds s hs := ⟨(h.bounds s hs).1, Int.le_trans (h.bounds s hs).2 hl⟩
  increasing := h.increasing
  keys := h.keys
  coherent := h.coherent

theorem WellFormed.filter (h : t.WellFormed) (p : Session → Bool) :
    WellFormed { t with rows := t.rows.filter p } where
  lastId := h.lastId
  bounds s hs := h.bounds s (List.mem_of_mem_filter hs)
  increasing := h.increasing.filter p
  keys := h.keys.filter p
  coherent s hs := h.coherent s (List.mem_of_mem_filter hs)

namespace Step

theorem refl (now : Timestamp) (t : SessionTable) : Step now t t := by
  have h : Step now t { t with rows := t.rows.map id } :=
    .changed ⟨0⟩ id (fun _ _ _ => .none) fun _ _ _ => rfl
  rwa [List.map_id] at h

/-- Changing what satisfies a predicate is one step if only one row does. -/
theorem of_change (h : Distinct t.rows) {p : Session → Bool} (hone : AtMostOne p t.rows)
    {f : Session → Session} (hf : ∀ s ∈ t.rows, p s = true → Session.Advance now s (f s)) :
    Step now t (t.change p f).2 := by
  by_cases hany : ∃ s ∈ t.rows, p s = true
  · obtain ⟨s, hs, hp⟩ := hany
    refine .changed s.id _ (fun r hr hid => ?_) (fun r hr hid => ?_)
    · obtain rfl := h.eq_of_id hr hs hid
      simpa [hp] using hf r hr hp
    · have hnot : ¬ p r = true := fun hpr => hid (congrArg Session.id (hone.eq hr hs hpr hp))
      rw [if_neg hnot]
  · have hnone : ∀ s ∈ t.rows, p s = false := by simpa using hany
    rw [change, map_if_of_forall_not f hnone]
    exact refl now t

theorem changed_names {id : SessionId} {f : Session → Session}
    (hf : ∀ s ∈ t.rows, s.id = id → Session.Advance now s (f s))
    (hothers : ∀ s ∈ t.rows, s.id ≠ id → f s = s) {s : Session} (hs : s ∈ t.rows) :
    (f s).id = s.id ∧ (f s).streamKey = s.streamKey := by
  by_cases hid : s.id = id
  · exact (hf s hs hid).names
  · rw [hothers s hs hid]
    exact ⟨rfl, rfl⟩

theorem wellFormed (h : Step now t t') (ht : t.WellFormed) : t'.WellFormed := by
  cases h with
  | added course key hfresh =>
    have hlast := ht.lastId
    refine ⟨by simp only; omega, ?_, ?_, ?_, ?_⟩
    · intro s hs
      rcases List.mem_append.1 hs with hs | hs
      · have hbounds := ht.bounds s hs
        simp only
        omega
      · obtain rfl := List.mem_singleton.1 hs
        simp only [Session.pending]
        omega
    · refine List.pairwise_append.2 ⟨ht.increasing, List.pairwise_singleton _ _, ?_⟩
      intro a ha b hb
      obtain rfl := List.mem_singleton.1 hb
      have hbounds := ht.bounds a ha
      simp only [Session.pending]
      omega
    · refine List.pairwise_append.2 ⟨ht.keys, List.pairwise_singleton _ _, ?_⟩
      intro a ha b hb
      obtain rfl := List.mem_singleton.1 hb
      exact hfresh a ha
    · intro s hs
      rcases List.mem_append.1 hs with hs | hs
      · exact ht.coherent s hs
      · obtain rfl := List.mem_singleton.1 hs
        exact Session.pending_isCoherent _ _ _ _
  | changed id f hf hothers =>
    have hnames := fun s hs => changed_names hf hothers (s := s) hs
    refine ⟨ht.lastId, ?_, ?_, ?_, ?_⟩
    · intro r hr
      obtain ⟨s, hs, rfl⟩ := List.mem_map.1 hr
      rw [(hnames s hs).1]
      exact ht.bounds s hs
    · refine List.pairwise_map.2 (ht.increasing.imp_of_mem fun {a b} ha hb hlt => ?_)
      rwa [(hnames a ha).1, (hnames b hb).1]
    · refine List.pairwise_map.2 (ht.keys.imp_of_mem fun {a b} ha hb hne => ?_)
      rwa [(hnames a ha).2, (hnames b hb).2]
    · intro r hr
      obtain ⟨s, hs, rfl⟩ := List.mem_map.1 hr
      by_cases hid : s.id = id
      · exact (hf s hs hid).isCoherent (ht.coherent s hs)
      · rw [hothers s hs hid]
        exact ht.coherent s hs
  | removed id => exact ht.filter _

theorem continues (h : Step now t t') (ht : t.WellFormed) {s s' : Session} (hs : s ∈ t.rows)
    (hs' : s' ∈ t'.rows) (hid : s'.id = s.id) : s.Continues s' := by
  cases h with
  | added course key hfresh =>
    rcases List.mem_append.1 hs' with hs' | hs'
    · obtain rfl := ht.distinct.eq_of_id hs' hs hid
      exact Session.Continues.refl s'
    · obtain rfl := List.mem_singleton.1 hs'
      have hbounds := ht.bounds s hs
      rw [← hid] at hbounds
      simp only [Session.pending] at hbounds
      omega
  | changed id f hf hothers =>
    obtain ⟨r, hr, rfl⟩ := List.mem_map.1 hs'
    rw [(changed_names hf hothers hr).1] at hid
    obtain rfl := ht.distinct.eq_of_id hr hs hid
    by_cases hrid : r.id = id
    · exact (hf r hr hrid).continues (ht.coherent r hr)
    · rw [hothers r hr hrid]
      exact Session.Continues.refl r
  | removed id =>
    obtain rfl := ht.distinct.eq_of_id (List.mem_of_mem_filter hs') hs hid
    exact Session.Continues.refl s'

theorem others_unchanged (h : Step now t t') :
    ∃ id : SessionId, t'.rows.filter (fun s => s.id != id) =
      t.rows.filter (fun s => s.id != id) := by
  cases h with
  | added course key hfresh => exact ⟨⟨t.lastId + 1⟩, by simp [Session.pending]⟩
  | changed id f hf hothers =>
    refine ⟨id, ?_⟩
    rw [List.filter_map]
    have hids : t.rows.filter ((fun s => s.id != id) ∘ f) = t.rows.filter fun s => s.id != id :=
      List.filter_congr fun s hs => by simp [(changed_names hf hothers hs).1]
    rw [hids]
    have hsame : (t.rows.filter fun s => s.id != id).map f =
        (t.rows.filter fun s => s.id != id).map fun s => s :=
      List.map_congr_left fun s hs => by
        obtain ⟨hs, hne⟩ := List.mem_filter.1 hs
        exact hothers s hs (by simpa using hne)
    rw [hsame, List.map_id']
  | removed id => exact ⟨id, by simp⟩

theorem lastId_le (h : Step now t t') : t.lastId ≤ t'.lastId := by
  cases h with
  | added course key hfresh => exact Int.le_add_one (Int.le_refl _)
  | changed id f hf hothers => exact Int.le_refl _
  | removed id => exact Int.le_refl _

/-- An identifier that was given out and is not in the table does not come back. -/
theorem absent (h : Step now t t') {id : SessionId} (hle : id.value ≤ t.lastId)
    (hnone : ∀ s ∈ t.rows, s.id ≠ id) : ∀ s ∈ t'.rows, s.id ≠ id := by
  cases h with
  | added course key hfresh =>
    intro s hs
    rcases List.mem_append.1 hs with hs | hs
    · exact hnone s hs
    · obtain rfl := List.mem_singleton.1 hs
      rintro rfl
      simp only [Session.pending] at hle
      omega
  | changed other f hf hothers =>
    intro r hr
    obtain ⟨s, hs, rfl⟩ := List.mem_map.1 hr
    rw [(changed_names hf hothers hs).1]
    exact hnone s hs
  | removed other => exact fun s hs => hnone s (List.mem_of_mem_filter hs)

/-- Moments stay in order when the clock does not run backwards. -/
theorem inOrder (h : Step now t t') (ht : t.WellFormed)
    (ho : ∀ s ∈ t.rows, s.InOrder ∧ s.IsUpTo now) : ∀ s ∈ t'.rows, s.InOrder ∧ s.IsUpTo now := by
  cases h with
  | added course key hfresh =>
    intro s hs
    rcases List.mem_append.1 hs with hs | hs
    · exact ho s hs
    · obtain rfl := List.mem_singleton.1 hs
      exact ⟨Session.pending_inOrder _ _ _ _, Session.pending_isUpTo _ _ _ _⟩
  | changed id f hf hothers =>
    intro r hr
    obtain ⟨s, hs, rfl⟩ := List.mem_map.1 hr
    obtain ⟨horder, hup⟩ := ho s hs
    by_cases hid : s.id = id
    · have hadvance := hf s hs hid
      exact ⟨hadvance.inOrder (ht.coherent s hs) hup horder, hadvance.isUpTo hup⟩
    · rw [hothers s hs hid]
      exact ⟨horder, hup⟩
  | removed id => exact fun s hs => ho s (List.mem_of_mem_filter hs)

end Step

theorem insertPending_step (t : SessionTable) (course : CourseId) (key : String) (now : Timestamp) :
    Step now t (t.insertPending course key now).2 := by
  by_cases h : ∃ s ∈ t.rows, s.streamKey = key
  · rw [insertPending_of_taken h]
    exact Step.refl now t
  · have hfresh : ∀ s ∈ t.rows, s.streamKey ≠ key := by simpa using h
    rw [insertPending_of_fresh hfresh]
    exact .added course key hfresh

theorem markProvisioned_step (h : Distinct t.rows) (id : SessionId) (now : Timestamp) :
    Step now t (t.markProvisioned id now).2 := by
  rw [markProvisioned_eq h]
  exact Step.of_change h (h.atMostOne_id id _) fun s hs hp =>
    .provisioned (by simpa using (Bool.and_eq_true_iff.1 hp).2)

theorem transitionById_step (h : Distinct t.rows) (id : SessionId) (tr : Transition)
    (now : Timestamp) : Step now t (t.transitionById id tr now).2 := by
  rw [transitionById_eq h]
  exact Step.of_change h (h.atMostOne_id id _) fun s hs hp =>
    .moved tr (by simpa using (Bool.and_eq_true_iff.1 hp).2)

theorem transitionByKey_step (h : Distinct t.rows) (key : String) (tr : Transition)
    (now : Timestamp) : Step now t (t.transitionByKey key tr now).2 := by
  rw [transitionByKey_eq h]
  exact Step.of_change h (h.atMostOne_key key _) fun s hs hp =>
    .moved tr (by simpa using (Bool.and_eq_true_iff.1 hp).2)

theorem delete_step (t : SessionTable) (id : SessionId) (now : Timestamp) :
    Step now t (t.delete id).2 := by
  rw [delete_eq]
  exact .removed id

end SessionTable

namespace Tables

theorem answer_step {t : Tables} (h : SessionTable.Distinct t.sessions.rows) (around : Surroundings)
    (c : Call) : SessionTable.Step around.now t.sessions (answer around c t).2.sessions := by
  unfold answer
  cases hfault : fault? around c with
  | some e => exact SessionTable.Step.refl _ _
  | none =>
    cases c with
    | insertPending course key => exact SessionTable.insertPending_step _ course key _
    | markProvisioned id => exact SessionTable.markProvisioned_step h id _
    | transitionById id tr => exact SessionTable.transitionById_step h id tr _
    | transitionByKey key tr => exact SessionTable.transitionByKey_step h key tr _
    | deleteSession id => exact SessionTable.delete_step _ id _
    | _ => exact SessionTable.Step.refl _ _

theorem answer_wellFormed {t : Tables} (h : t.sessions.WellFormed) (around : Surroundings)
    (c : Call) : (answer around c t).2.sessions.WellFormed :=
  (answer_step h.distinct around c).wellFormed h

end Tables

end LiveLesson
