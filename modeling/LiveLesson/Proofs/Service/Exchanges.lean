import LiveLesson.Proofs.Service.Protocol
import LiveLesson.Proofs.Store.SessionTable

/-!
The exchanges of a run: the calls that a program makes, each with what it was answered. A program
that obeys a protocol ends as its exchanges require, whatever answers them. A run over the tables
whose exchanges are all idle leaves the tables as they were.
-/

namespace LiveLesson

def StoreError.isMissingRow : StoreError → Bool
  | .rowNotFound => true
  | _ => false

/-- Whether a failure of the call is the service's own. A row of the quiz that is missing is the
client's mistake, and a session is created even if it is not noted that its stream was accepted. -/
def Call.isFatal : (c : Call) → c.Failure → Bool
  | .insertPending .., _ | .findSession _, _ | .transitionById .., _ | .transitionByKey ..,
    _ | .provision _, _
  | .checkDatabase, _ => true
  | .createQuestion _, e | .findQuestion .., e | .insertAnswer _, e | .tally _, e =>
    !StoreError.isMissingRow e
  | .markProvisioned _, _ | .deleteSession _, _ => false

namespace Exchange

def isFatal (x : Exchange) : Bool :=
  match x.outcome with
  | .ok _ => false
  | .error e => x.call.isFatal e

/-- The call failed, or asked without changing anything, or found nothing to change. -/
def isIdle : Exchange → Bool
  | ⟨.insertPending .., .ok _⟩ | ⟨.createQuestion _, .ok _⟩ => false
  | ⟨.markProvisioned _, .ok changed⟩ | ⟨.transitionById .., .ok changed⟩ | ⟨.transitionByKey ..,
    .ok changed⟩
  | ⟨.deleteSession _, .ok changed⟩ | ⟨.insertAnswer _, .ok changed⟩ => !changed
  | _ => true

end Exchange

namespace Program

variable {α β σ : Type} {may : List Exchange → Call → Prop} {ends : List Exchange → α → Prop}
  {xs : List Exchange}

def exchanges (h : Handler σ) : Program α → σ → List Exchange
  | .done _, _ => []
  | .log _ p, s => p.exchanges h s
  | .call c k, s => ⟨c, (h c s).1⟩ :: (k (h c s).1).exchanges h (h c s).2

@[simp] theorem exchanges_pure (h : Handler σ) (a : α) (s : σ) :
    (pure a : Program α).exchanges h s = [] := rfl

theorem calls_run (h : Handler σ) (p : Program α) (s : σ) :
    (p.run h s).calls = (p.exchanges h s).map Exchange.call := by
  induction p generalizing s with
  | done a => rfl
  | log e p ih => exact ih s
  | call c k ih => exact congrArg (c :: ·) (ih (h c s).1 (h c s).2)

theorem exchanges_bind (h : Handler σ) (p : Program α) (f : α → Program β) (s : σ) :
    (p >>= f).exchanges h s =
      p.exchanges h s ++ (f (p.run h s).result).exchanges h (p.run h s).state := by
  induction p generalizing s with
  | done a => rfl
  | log e p ih => exact ih s
  | call c k ih => exact congrArg (⟨c, (h c s).1⟩ :: ·) (ih (h c s).1 (h c s).2)

theorem exchanges_of_next?_eq_none {p : Program α} (hp : p.next? = none) (h : Handler σ) (s : σ) :
    p.exchanges h s = [] := by
  induction p with
  | done a => rfl
  | log e p ih => exact ih hp
  | call c k ih => cases hp

theorem exchanges_of_next?_eq_some {p : Program α} {c : Call} {k : c.Outcome → Program α}
    (hp : p.next? = some ⟨c, k⟩) (h : Handler σ) (s : σ) :
    p.exchanges h s = ⟨c, (h c s).1⟩ :: (k (h c s).1).exchanges h (h c s).2 := by
  induction p with
  | done a => cases hp
  | log e p ih => exact ih hp
  | call c' k' ih =>
    cases hp
    rfl

theorem head?_calls (p : Program α) (h : Handler σ) (s : σ) :
    ((p.exchanges h s).map Exchange.call).head? = p.next?.map Sigma.fst := by
  cases hp : p.next? with
  | none =>
    rw [exchanges_of_next?_eq_none hp]
    rfl
  | some next =>
    rw [exchanges_of_next?_eq_some (c := next.1) (k := next.2) hp]
    rfl

/-- The program makes this call and no other, or none at all. -/
def AsksOnce (p : Program α) : Option Call → Prop
  | none => p.next? = none
  | some c => ∃ k, p.next? = some ⟨c, k⟩ ∧ ∀ o, (k o).next? = none

theorem AsksOnce.calls {p : Program α} {c? : Option Call} (hp : p.AsksOnce c?) (h : Handler σ)
    (s : σ) : (p.exchanges h s).map Exchange.call = c?.toList := by
  cases c? with
  | none =>
    rw [exchanges_of_next?_eq_none hp]
    rfl
  | some c =>
    obtain ⟨k, hp, hk⟩ := hp
    rw [exchanges_of_next?_eq_some hp, exchanges_of_next?_eq_none (hk _)]
    rfl

/-- What a protocol says about all exchanges that are possible holds of those that take place. -/
theorem Obeys.exchanges {p : Program α} (hp : p.Obeys may ends xs) (h : Handler σ) (s : σ) :
    ends (xs ++ p.exchanges h s) (p.run h s).result := by
  induction p generalizing xs s with
  | done a => rwa [Program.exchanges, List.append_nil]
  | log e p ih => exact ih hp s
  | call c k ih =>
    have hrest := ih (h c s).1 (hp.2 (h c s).1) (h c s).2
    rwa [List.append_assoc] at hrest

/-- A run depends on its handler only through the calls that the program may make. -/
theorem Obeys.run_congr {p : Program α} (hp : p.Obeys may ends xs) {h h' : Handler σ}
    (hsame : ∀ ys c, may ys c → h c = h' c) (s : σ) : p.run h s = p.run h' s := by
  induction p generalizing xs s with
  | done a => rfl
  | log e p ih => simp only [run, ih hp s]
  | call c k ih =>
    simp only [run, hsame xs c hp.1]
    rw [ih _ (hp.2 _)]

end Program

namespace SessionTable

variable {t : SessionTable}

theorem delete_of_eq_false {id : SessionId} (h : (t.delete id).1 = false) :
    (t.delete id).2 = t := by
  rw [delete_eq] at h ⊢
  have hkept : (t.rows.filter fun s => s.id != id) = t.rows :=
    List.filter_eq_self.2 fun s hs => by simpa using List.any_eq_false.1 h s hs
  rw [hkept]

theorem replace_of_eq_false {rows : Option (List Session)} (h : (t.replace rows).1 = false) :
    (t.replace rows).2 = t := by
  cases rows with
  | none => rfl
  | some rows => cases h

theorem insertPending_of_isIdle {course : CourseId} {key : String} {now : Timestamp}
    (h : Exchange.isIdle ⟨.insertPending course key, (t.insertPending course key now).1⟩ = true) :
    (t.insertPending course key now).2 = t := by
  unfold insertPending at h ⊢
  split
  · rfl
  · next hfresh =>
    rw [if_neg hfresh] at h
    cases h

end SessionTable

theorem QuizTable.insertAnswer_of_eq_false {t : QuizTable} {a : NewAnswer}
    (h : (t.insertAnswer a).1 = false) : (t.insertAnswer a).2 = t := by
  unfold insertAnswer at h ⊢
  split at h
  · cases h
  · next hunknown => rw [if_neg hunknown]

namespace Tables

variable {t : Tables}

theorem answer_of_isIdle {around : Surroundings} {c : Call}
    (h : Exchange.isIdle ⟨c, (answer around c t).1⟩ = true) : (answer around c t).2 = t := by
  unfold answer at h ⊢
  cases hfault : fault? around c with
  | some e => rfl
  | none =>
    rw [hfault] at h
    have hchanged : ∀ {b : Bool}, (!b) = true → b = false := by simp
    cases c with
    | insertPending course key =>
      exact congrArg (fun sessions => { t with sessions := sessions })
        (SessionTable.insertPending_of_isIdle h)
    | markProvisioned id =>
      exact congrArg (fun sessions => { t with sessions := sessions })
        (SessionTable.replace_of_eq_false (hchanged h))
    | transitionById id tr =>
      exact congrArg (fun sessions => { t with sessions := sessions })
        (SessionTable.replace_of_eq_false (hchanged h))
    | transitionByKey key tr =>
      exact congrArg (fun sessions => { t with sessions := sessions })
        (SessionTable.replace_of_eq_false (hchanged h))
    | deleteSession id =>
      exact congrArg (fun sessions => { t with sessions := sessions })
        (SessionTable.delete_of_eq_false (hchanged h))
    | createQuestion q => cases h
    | insertAnswer a =>
      exact congrArg (fun quiz => { t with quiz := quiz })
        (QuizTable.insertAnswer_of_eq_false (hchanged h))
    | _ => rfl

theorem handler_of_fault {around : Call → Surroundings} {c : Call} {e : c.Failure}
    (h : fault? (around c) c = some e) (t : Tables) : handler around c t = (.error e, t) := by
  unfold handler answer
  rw [h]

theorem handler_of_no_fault {around : Call → Surroundings} {c : Call}
    (h : fault? (around c) c = none) (t : Tables) :
    handler around c t = t.perform (around c) c := by
  unfold handler answer
  rw [h]

theorem run_of_idle {α : Type} {around : Call → Surroundings} {p : Program α}
    (h : (p.exchanges (handler around) t).all Exchange.isIdle = true) :
    (p.run (handler around) t).state = t := by
  induction p generalizing t with
  | done a => rfl
  | log e p ih => exact ih h
  | call c k ih =>
    rw [Program.exchanges, List.all_cons, Bool.and_eq_true] at h
    have hsame : (handler around c t).2 = t := answer_of_isIdle h.1
    have hrest := ih _ h.2
    rw [hsame] at hrest
    simpa only [Program.run, hsame] using hrest

end Tables

end LiveLesson
