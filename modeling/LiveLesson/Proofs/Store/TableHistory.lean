import LiveLesson.Proofs.Store.TableStep
import LiveLesson.Service.Interleaving

/-!
The session table after any calls in any order, from the empty table on. Its rows stay well formed,
moments follow one another when the clock does, and from one call to the next a session only gets
older. The tables of a run of operations side by side come about in this way.
-/

namespace LiveLesson

def Call.isInsertPending : Call → Bool
  | insertPending .. => true
  | _ => false

def Exchange.isAdded : Exchange → Bool
  | ⟨.insertPending .., .ok _⟩ => true
  | _ => false

theorem Exchange.isInsertPending_of_isAdded {x : Exchange} (h : x.isAdded = true) :
    x.call.isInsertPending = true := by
  unfold isAdded at h
  split at h
  · rfl
  · cases h

namespace Tables

def answerAll : List (Surroundings × Call) → Tables → Tables
  | [], t => t
  | (around, c) :: rest, t => answerAll rest (answer around c t).2

theorem answerAll_wellFormed {t : Tables} (h : t.sessions.WellFormed)
    (calls : List (Surroundings × Call)) : (answerAll calls t).sessions.WellFormed := by
  induction calls generalizing t with
  | nil => exact h
  | cons x rest ih => exact ih (answer_wellFormed h x.1 x.2)

theorem lastId_replace (t : SessionTable) (rows : Option (List Session)) :
    (t.replace rows).2.lastId = t.lastId := by
  cases rows <;> rfl

theorem lastId_answer (around : Surroundings) (c : Call) (t : Tables) :
    (answer around c t).2.sessions.lastId =
      if Exchange.isAdded ⟨c, (answer around c t).1⟩ then t.sessions.lastId + 1
        else t.sessions.lastId := by
  unfold answer
  cases hfault : fault? around c with
  | some e => cases c <;> rfl
  | none =>
    cases c with
    | insertPending course key =>
      by_cases h : ∃ s ∈ t.sessions.rows, s.streamKey = key
      · simp [perform, SessionTable.insertPending_of_taken h, Exchange.isAdded]
      · have hfresh : ∀ s ∈ t.sessions.rows, s.streamKey ≠ key := by simpa using h
        simp [perform, SessionTable.insertPending_of_fresh hfresh, Exchange.isAdded]
    | markProvisioned id => exact lastId_replace _ _
    | transitionById id tr => exact lastId_replace _ _
    | transitionByKey key tr => exact lastId_replace _ _
    | _ => rfl

theorem lastId_answerAll_le (calls : List (Surroundings × Call)) (t : Tables) :
    (answerAll calls t).sessions.lastId ≤
      t.sessions.lastId + calls.countP fun x => x.2.isInsertPending := by
  induction calls generalizing t with
  | nil => simp [answerAll]
  | cons x rest ih =>
    have hrest := ih (answer x.1 x.2 t).2
    rw [answerAll, List.countP_cons]
    rw [lastId_answer] at hrest
    split at hrest
    · next hadded =>
      have hinsert : x.2.isInsertPending = true := Exchange.isInsertPending_of_isAdded hadded
      simp only [hinsert, if_true]
      omega
    · omega

theorem answerAll_inOrder {t : Tables} {m : Timestamp} (h : t.sessions.WellFormed)
    (calls : List (Surroundings × Call)) (hclock : calls.Pairwise fun x y => x.1.now ≤ y.1.now)
    (hm : ∀ x ∈ calls, m ≤ x.1.now) (ho : ∀ s ∈ t.sessions.rows, s.InOrder ∧ s.IsUpTo m) :
    ∀ s ∈ (answerAll calls t).sessions.rows, s.InOrder := by
  induction calls generalizing t m with
  | nil => exact fun s hs => (ho s hs).1
  | cons x rest ih =>
    obtain ⟨hlater, hclock⟩ := List.pairwise_cons.1 hclock
    have hle := hm x List.mem_cons_self
    have hnow : ∀ s ∈ t.sessions.rows, s.InOrder ∧ s.IsUpTo x.1.now :=
      fun s hs => ⟨(ho s hs).1, (ho s hs).2.mono hle⟩
    have hstep := answer_step h.distinct x.1 x.2
    exact ih (answer_wellFormed h x.1 x.2) hclock hlater (hstep.inOrder h hnow)

theorem answerAll_absent {t : Tables} (h : t.sessions.WellFormed) {id : SessionId}
    (hle : id.value ≤ t.sessions.lastId) (hnone : ∀ s ∈ t.sessions.rows, s.id ≠ id)
    (calls : List (Surroundings × Call)) : ∀ s ∈ (answerAll calls t).sessions.rows, s.id ≠ id := by
  induction calls generalizing t with
  | nil => exact hnone
  | cons x rest ih =>
    have hstep := answer_step h.distinct x.1 x.2
    exact ih (answer_wellFormed h x.1 x.2) (Int.le_trans hle hstep.lastId_le)
      (hstep.absent hle hnone)

end Tables

def Turn.around? : Turn → Option Tables.Surroundings
  | .call _ around => some around
  | .cleanUp _ => none

/-- A run without cleaning up makes calls one after the other, in the surroundings of its turns. -/
theorem System.run_eq_answerAll (s : System Tables) (turns : List Turn)
    (h : ∀ cutoff, Turn.cleanUp cutoff ∉ turns) :
    ∃ calls : List (Tables.Surroundings × Call),
      (s.run Tables.world turns).2.state = Tables.answerAll calls s.state ∧
        (calls.map Prod.fst).Sublist (turns.filterMap Turn.around?) := by
  induction turns generalizing s with
  | nil => exact ⟨[], rfl, List.Sublist.refl _⟩
  | cons t turns ih =>
    have hrest : ∀ cutoff, Turn.cleanUp cutoff ∉ turns :=
      fun c hc => h c (List.mem_cons_of_mem t hc)
    cases t with
    | cleanUp cutoff => exact absurd List.mem_cons_self (h cutoff)
    | call i around =>
      obtain ⟨calls, hstate, hsub⟩ := ih (s.step Tables.world (.call i around)).2 hrest
      cases hnext : s.next? i with
      | none =>
        refine ⟨calls, ?_, hsub.cons _⟩
        simpa [System.run, System.step_of_next?_eq_none hnext] using hstate
      | some found =>
        obtain ⟨operation, c, k⟩ := found
        refine ⟨(around, c) :: calls, ?_, hsub.cons_cons around⟩
        simpa [System.run, System.step_of_next?_eq_some hnext, Tables.answerAll, Tables.world]
          using hstate

/-- The invariant of the session table, over all calls in all orders: what holds of every table,
what one more call leaves as it is, and that identifiers are never used again. -/
theorem sessions_answerAll (calls : List (Tables.Surroundings × Call)) :
    let t := Tables.answerAll calls .empty
    t.sessions.WellFormed ∧
      t.sessions.lastId ≤ calls.countP (fun x => x.2.isInsertPending) ∧
      (calls.Pairwise (fun x y => x.1.now ≤ y.1.now) → ∀ s ∈ t.sessions.rows, s.InOrder) ∧
      (∀ around c, let t' := (Tables.answer around c t).2
        (∀ s ∈ t.sessions.rows, ∀ s' ∈ t'.sessions.rows, s'.id = s.id → s.Continues s') ∧
        (∃ id : SessionId, t'.sessions.rows.filter (fun s => s.id != id) =
          t.sessions.rows.filter fun s => s.id != id) ∧
        ∀ id, t.sessions.find? id ≠ none → t'.sessions.find? id = none →
          ∀ more, (Tables.answerAll more t').sessions.find? id = none) ∧
      ∀ settings operations turns, (∀ cutoff, Turn.cleanUp cutoff ∉ turns) →
        ∃ others : List (Tables.Surroundings × Call),
          ((System.begin settings operations .empty).run Tables.world turns).2.state =
              Tables.answerAll others .empty ∧
            (others.map Prod.fst).Sublist (turns.filterMap Turn.around?) := by
  intro t
  have hwf : t.sessions.WellFormed :=
    Tables.answerAll_wellFormed SessionTable.empty_wellFormed calls
  refine ⟨hwf, ?_, ?_, ?_, ?_⟩
  · have hle := Tables.lastId_answerAll_le calls .empty
    simpa [t, Tables.empty, SessionTable.empty] using hle
  · intro hclock
    cases calls with
    | nil => simp [t, Tables.answerAll, Tables.empty, SessionTable.empty]
    | cons x rest =>
      have hfirst : ∀ y ∈ x :: rest, x.1.now ≤ y.1.now := by
        intro y hy
        rcases List.mem_cons.1 hy with rfl | hy
        · exact Timestamp.le_refl _
        · exact (List.pairwise_cons.1 hclock).1 y hy
      exact Tables.answerAll_inOrder SessionTable.empty_wellFormed (x :: rest) hclock hfirst
        (by simp [Tables.empty, SessionTable.empty])
  · intro around c t'
    have hstep := Tables.answer_step hwf.distinct around c
    refine ⟨fun s hs s' hs' hid => hstep.continues hwf hs hs' hid, hstep.others_unchanged, ?_⟩
    intro id hfound hgone more
    obtain ⟨s, hs⟩ := Option.ne_none_iff_exists'.1 hfound
    obtain ⟨hmem, rfl⟩ := (SessionTable.find?_eq_some_iff hwf.distinct).1 hs
    have hwf' : t'.sessions.WellFormed := hstep.wellFormed hwf
    have hle := Int.le_trans (hwf.bounds s hmem).2 hstep.lastId_le
    exact SessionTable.find?_eq_none_iff.2
      (Tables.answerAll_absent hwf' hle (SessionTable.find?_eq_none_iff.1 hgone) more)
  · intro settings operations turns hturns
    exact System.run_eq_answerAll _ turns hturns

/-- A session that is started after it was added. -/
theorem sessions_answerAll_inOrder :
    let calls : List (Tables.Surroundings × Call) :=
      [(⟨⟨0, 0⟩, none, .ok ()⟩, .insertPending ⟨1⟩ "k"),
        (⟨⟨5, 0⟩, none, .ok ()⟩, .transitionById ⟨1⟩ .start)]
    ∀ s ∈ (Tables.answerAll calls .empty).sessions.rows, s.InOrder := by
  intro calls
  have hclock : calls.Pairwise fun x y => x.1.now ≤ y.1.now := by
    simp only [calls, List.pairwise_pair]
    decide
  exact (sessions_answerAll calls).2.2.1 hclock

end LiveLesson
