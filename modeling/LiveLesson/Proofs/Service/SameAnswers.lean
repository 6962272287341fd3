import LiveLesson.Proofs.Store.SessionStatements
import LiveLesson.Proofs.Store.TableHistory

/-!
A database that keeps the sessions of the tables answers every call on sessions as the tables do,
and keeps the sessions that the tables have afterwards.
-/

namespace LiveLesson

namespace Call

def concernsSessions : Call → Bool
  | insertPending .. | findSession _ | markProvisioned _ | transitionById .. | transitionByKey ..
  | deleteSession _ | provision _ => true
  | createQuestion _ | findQuestion .. | insertAnswer _ | tally _ | checkDatabase => false

/-- Whether the call reaches the store and asks for a new identifier. -/
def draws (around : Tables.Surroundings) (c : Call) : Bool :=
  c.isInsertPending && around.fault.isNone

/-- What the tables and a database answer is the same, but for the error when a key is taken. -/
def SameOutcome : (c : Call) → c.Outcome → c.Outcome → Prop
  | insertPending .., o, o' =>
    o' = o ∨ (o = .error SessionTable.duplicateKey ∧ ∃ message, o' = .error (.database message))
  | _, o, o' => o' = o

theorem SameOutcome.refl (c : Call) (o : c.Outcome) : c.SameOutcome o o := by
  cases c with
  | insertPending course key => exact .inl rfl
  | _ => rfl

end Call

theorem Call.draws_of_fault {around : Tables.Surroundings} {c : Call} {e : c.Failure}
    (h : Tables.fault? around c = some e) : c.draws around = false := by
  cases c with
  | insertPending course key =>
    rw [draws, show around.fault = some e from h]
    rfl
  | _ => rfl

theorem Call.draws_of_isAdded {around : Tables.Surroundings} {c : Call} {t : Tables}
    (h : Exchange.isAdded ⟨c, (Tables.answer around c t).1⟩ = true) : c.draws around = true := by
  cases c with
  | insertPending course key =>
    cases hfault : around.fault with
    | none => simp [draws, isInsertPending, hfault]
    | some e => simp [Tables.answer, Tables.fault?, hfault, Exchange.isAdded] at h
  | _ => cases h

theorem Tables.lastId_answer_le_draws (around : Surroundings) (c : Call) (t : Tables) :
    (answer around c t).2.sessions.lastId ≤
      if c.draws around then t.sessions.lastId + 1 else t.sessions.lastId := by
  rw [lastId_answer]
  by_cases hadded : Exchange.isAdded ⟨c, (answer around c t).1⟩ = true
  · exact Int.le_of_eq (by rw [if_pos hadded, if_pos (Call.draws_of_isAdded hadded)])
  · rw [if_neg hadded]
    split
    · exact Int.le_add_one (Int.le_refl _)
    · exact Int.le_refl _

/-- Over a table with distinct identifiers and keys a database does what the table does. -/
theorem Database.Holds.answer {d : Database} {t : Tables} (h : d.Holds t.sessions)
    (hd : SessionTable.Distinct t.sessions.rows)
    (hfresh : ∀ s ∈ t.sessions.rows, s.id.value ≠ t.sessions.lastId + 1)
    (around : Tables.Surroundings) {c : Call} (hc : c.concernsSessions = true) :
    let r := Tables.answer around c t
    let r' := world.answer around c d
    c.SameOutcome r.1 r'.1 ∧
      r'.2.Holds ⟨if c.draws around then t.sessions.lastId + 1 else t.sessions.lastId,
        r.2.sessions.rows⟩ := by
  simp only [Tables.answer, world]
  cases hfault : Tables.fault? around c with
  | some e =>
    rw [Call.draws_of_fault hfault]
    exact ⟨.refl c _, h⟩
  | none =>
    cases c with
    | insertPending course key =>
      have hdraws : (Call.insertPending course key).draws around = true := by
        rw [Call.draws, show around.fault = none from hfault]
        rfl
      rw [hdraws]
      exact h.insertPending around.now around.media hfresh course key
    | findSession id =>
      rw [h.findSession around.now around.media id]
      exact ⟨rfl, h⟩
    | markProvisioned id => exact h.markProvisioned around.now around.media hd id
    | transitionById id tr => exact h.transitionById around.now around.media hd id tr
    | transitionByKey key tr => exact h.transitionByKey around.now around.media hd key tr
    | deleteSession id => exact h.deleteSession around.now around.media id
    | provision key => exact ⟨rfl, h⟩
    | _ => cases hc

end LiveLesson
