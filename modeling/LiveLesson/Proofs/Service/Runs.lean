import LiveLesson.Proofs.Service.Protocol

/-!
Runs of operations side by side, over any world. Every event of a run follows from the ones before
it: it does nothing, cleans up, or is a call that its operation may make, answered by the world. A
property of histories that every such event keeps holds of every run, so that the processes need not
be looked at again.
-/

namespace LiveLesson

variable {σ : Type}

theorem last_or_earlier {past pre post : List (Event σ)} {e d : Event σ}
    (h : past ++ [e] = pre ++ d :: post) :
    (pre = past ∧ d = e) ∨ ∃ rest, past = pre ++ d :: rest := by
  rcases List.eq_nil_or_concat post with rfl | ⟨rest, last, rfl⟩
  · obtain ⟨rfl, rfl⟩ := List.append_singleton_inj.1 h
    exact .inl ⟨rfl, rfl⟩
  · rw [List.concat_eq_append, ← List.cons_append, ← List.append_assoc] at h
    exact .inr ⟨rest, (List.append_singleton_inj.1 h).1⟩

def exchangesOf (i : Nat) (events : List (Event σ)) : List Exchange :=
  events.filterMap fun e => e.exchange.bind fun x => if x.1 = i then some x.2 else none

variable (w : World σ) (settings : PlaybackSettings) (operations : List Operation)

/-- What can happen next in a run of the operations, after the events so far. -/
inductive Event.Follows (past : List (Event σ)) : Event σ → Prop
  | idle (s : σ) : Follows past ⟨s, s, none, none⟩
  | cleanUp (cutoff : Timestamp) (s : σ) : Follows past ⟨s, w.cleanUp cutoff s, none, none⟩
  | pending {i o c} (around : Tables.Surroundings) (s : σ) :
    operations[i]? = some o → o.MayCall (exchangesOf i past) c →
    (∃ c', o.MayCall (exchangesOf i past ++ [⟨c, (w.answer around c s).1⟩]) c') →
    Follows past ⟨s, (w.answer around c s).2, some (i, ⟨c, (w.answer around c s).1⟩), none⟩
  | final {i o c a} (around : Tables.Surroundings) (s : σ) :
    operations[i]? = some o → o.MayCall (exchangesOf i past) c →
    o.Ends settings (exchangesOf i past ++ [⟨c, (w.answer around c s).1⟩]) a →
    Follows past ⟨s, (w.answer around c s).2, some (i, ⟨c, (w.answer around c s).1⟩), some (o, a)⟩

namespace Event.Follows

variable {w settings operations} {past : List (Event σ)} {e : Event σ}

/-- An event with a call: the call was allowed, the world answered it, and the operation either has
another call to make or ended as its protocol says. -/
theorem answered (h : e.Follows w settings operations past) {i : Nat} {x : Exchange}
    (hx : e.exchange = some (i, x)) :
    ∃ o around, operations[i]? = some o ∧ o.MayCall (exchangesOf i past) x.call ∧
      x = ⟨x.call, (w.answer around x.call e.before).1⟩ ∧
      e.after = (w.answer around x.call e.before).2 ∧
      ((e.ended = none ∧ ∃ c, o.MayCall (exchangesOf i past ++ [x]) c) ∨
        ∃ a, e.ended = some (o, a) ∧ o.Ends settings (exchangesOf i past ++ [x]) a) := by
  cases h with
  | idle s => cases hx
  | cleanUp cutoff s => cases hx
  | pending around s ho hmay hmore =>
    cases hx
    exact ⟨_, around, ho, hmay, rfl, rfl, .inl ⟨rfl, hmore⟩⟩
  | final around s ho hmay hends =>
    cases hx
    exact ⟨_, around, ho, hmay, rfl, rfl, .inr ⟨_, rfl, hends⟩⟩

theorem of_no_exchange (h : e.Follows w settings operations past) (hx : e.exchange = none) :
    e.ended = none ∧ (e.after = e.before ∨ ∃ cutoff, e.after = w.cleanUp cutoff e.before) := by
  cases h with
  | idle s => exact ⟨rfl, .inl rfl⟩
  | cleanUp cutoff s => exact ⟨rfl, .inr ⟨cutoff, rfl⟩⟩
  | pending around s ho hmay hmore => cases hx
  | final around s ho hmay hends => cases hx

theorem of_ended (h : e.Follows w settings operations past) {o : Operation} {a : Operation.Outcome}
    (ha : e.ended = some (o, a)) :
    ∃ i x, e.exchange = some (i, x) ∧ operations[i]? = some o ∧
      o.Ends settings (exchangesOf i past ++ [x]) a := by
  cases h with
  | idle s => cases ha
  | cleanUp cutoff s => cases ha
  | pending around s ho hmay hmore => cases ha
  | final around s ho hmay hends =>
    cases ha
    exact ⟨_, _, rfl, ho, hends⟩

theorem ended_of_single (h : e.Follows w settings operations past) {i : Nat} {x : Exchange}
    {o : Operation} (hx : e.exchange = some (i, x)) (ho : operations[i]? = some o)
    (hfirst : exchangesOf i past = []) (hlast : ∀ c, ¬ o.MayCall [x] c) :
    ∃ a, e.ended = some (o, a) ∧ o.Ends settings [x] a := by
  obtain ⟨o', _, ho', _, _, _, hend⟩ := h.answered hx
  obtain rfl : o' = o := Option.some.inj (ho'.symm.trans ho)
  rw [hfirst] at hend
  exact hend.resolve_left fun hmore => hmore.2.elim hlast

end Event.Follows

namespace System

theorem run_append (w : World σ) (s : System σ) (front back : List Turn) :
    s.run w (front ++ back) =
      ((s.run w front).1 ++ ((s.run w front).2.run w back).1,
        ((s.run w front).2.run w back).2) := by
  induction front generalizing s with
  | nil => rfl
  | cons t front ih => simp only [List.cons_append, run, ih]

theorem length_run (w : World σ) (s : System σ) (turns : List Turn) :
    (s.run w turns).1.length = turns.length := by
  induction turns generalizing s with
  | nil => rfl
  | cons t turns ih => simp only [run, List.length_cons, ih]

/-- Each process runs the operation of its number and obeys the protocol of that operation from here
on. -/
def Obedient (past : List (Event σ)) (processes : List Process) : Prop :=
  ∀ (i : Nat) (p : Process), processes[i]? = some p → operations[i]? = some p.operation ∧
    p.rest.Obeys p.operation.MayCall (p.operation.Ends settings) (exchangesOf i past)

theorem obedient_begin (s : σ) :
    Obedient settings operations ([] : List (Event σ)) (begin settings operations s).processes := by
  intro i p hp
  obtain ⟨o, ho, rfl⟩ : ∃ o, operations[i]? = some o ∧ Process.begin settings o = p := by
    simpa [begin] using hp
  exact ⟨ho, Operation.program_obeys settings o⟩

variable {settings operations} {past : List (Event σ)} {s : System σ}

theorem Obedient.of_no_exchange {processes : List Process}
    (h : Obedient settings operations past processes) {e : Event σ} (he : e.exchange = none) :
    Obedient settings operations (past ++ [e]) processes := by
  intro i p hp
  have hsame : exchangesOf i (past ++ [e]) = exchangesOf i past := by
    simp [exchangesOf, he]
  rw [hsame]
  exact h i p hp

theorem Obedient.of_exchange {processes : List Process}
    (h : Obedient settings operations past processes) {e : Event σ} {i : Nat} {x : Exchange}
    (he : e.exchange = some (i, x)) {p : Process} (ho : operations[i]? = some p.operation)
    (hp : p.rest.Obeys p.operation.MayCall (p.operation.Ends settings)
      (exchangesOf i past ++ [x])) :
    Obedient settings operations (past ++ [e]) (processes.set i p) := by
  intro j q hq
  by_cases hij : i = j
  · subst hij
    have hmore : exchangesOf i (past ++ [e]) = exchangesOf i past ++ [x] := by
      simp [exchangesOf, he]
    obtain ⟨_, rfl⟩ : i < processes.length ∧ p = q := by
      simpa [List.getElem?_set] using hq
    rw [hmore]
    exact ⟨ho, hp⟩
  · have hsame : exchangesOf j (past ++ [e]) = exchangesOf j past := by
      simp [exchangesOf, he, hij]
    rw [hsame]
    exact h j q (by simpa [List.getElem?_set, hij] using hq)

theorem next?_eq_some {i : Nat} {o : Operation} {c : Call}
    {k : c.Outcome → Program Operation.Outcome} (h : s.next? i = some (o, ⟨c, k⟩)) :
    ∃ p, s.processes[i]? = some p ∧ p.operation = o ∧ p.rest.next? = some ⟨c, k⟩ := by
  obtain ⟨p, hp, hnext⟩ := Option.bind_eq_some_iff.1 h
  obtain ⟨n, hn, heq⟩ := Option.map_eq_some_iff.1 hnext
  cases heq
  exact ⟨p, hp, rfl, hn⟩

/-- One turn: its event follows from the past, and the processes go on obeying. -/
theorem step_follows (h : Obedient settings operations past s.processes) (t : Turn) :
    (s.step w t).1.Follows w settings operations past ∧ (s.step w t).1.before = s.state ∧
      (s.step w t).1.after = (s.step w t).2.state ∧
      Obedient settings operations (past ++ [(s.step w t).1]) (s.step w t).2.processes := by
  cases t with
  | cleanUp cutoff => exact ⟨.cleanUp cutoff s.state, rfl, rfl, h.of_no_exchange rfl⟩
  | call i around =>
    cases hnext : s.next? i with
    | none =>
      rw [step_of_next?_eq_none hnext]
      exact ⟨.idle s.state, rfl, rfl, h.of_no_exchange rfl⟩
    | some found =>
      obtain ⟨o, c, k⟩ := found
      obtain ⟨p, hp, rfl, hrest⟩ := next?_eq_some hnext
      obtain ⟨ho, hobeys⟩ := h i p hp
      obtain ⟨hmay, hgo⟩ := hobeys.of_next? hrest
      have hobeys' := hgo (w.answer around c s.state).1
      rw [step_of_next?_eq_some hnext]
      refine ⟨?_, rfl, rfl, h.of_exchange rfl ho hobeys'⟩
      dsimp only
      cases hresult : (k (w.answer around c s.state).1).result? with
      | none => exact .pending around s.state ho hmay (hobeys'.of_result?_eq_none hresult)
      | some a => exact .final around s.state ho hmay (hobeys'.of_result? hresult)

/-- What holds in the beginning and is kept by every event that can follow holds after every run. -/
theorem run_induction (P : List (Event σ) → σ → Prop) {s₀ : σ} (hinit : P [] s₀)
    (hstep : ∀ past e, P past e.before → e.Follows w settings operations past →
      P (past ++ [e]) e.after) (turns : List Turn) :
    P ((begin settings operations s₀).run w turns).1
    ((begin settings operations s₀).run w turns).2.state := by
  have hrun : ∀ (turns : List Turn) (past : List (Event σ)) (s : System σ),
      Obedient settings operations past s.processes → P past s.state →
      P (past ++ (s.run w turns).1) (s.run w turns).2.state := by
    intro turns
    induction turns with
    | nil =>
      intro past s _ hP
      simpa [run] using hP
    | cons t turns ih =>
      intro past s hs hP
      obtain ⟨hfollows, hbefore, hafter, hs'⟩ := step_follows w hs t
      have hP' := hstep past _ (hbefore ▸ hP) hfollows
      rw [hafter] at hP'
      simpa [run] using ih (past ++ [(s.step w t).1]) (s.step w t).2 hs' hP'
  simpa using hrun turns [] (begin settings operations s₀)
    (obedient_begin settings operations s₀) hinit

/-- Such a property holds before each event of a run, and the event follows from the ones before
it. -/
theorem run_split (P : List (Event σ) → σ → Prop) {s₀ : σ} (hinit : P [] s₀)
    (hstep : ∀ past e, P past e.before → e.Follows w settings operations past →
      P (past ++ [e]) e.after) {turns : List Turn} {pre post : List (Event σ)} {e : Event σ}
    (hrun : ((begin settings operations s₀).run w turns).1 = pre ++ e :: post) :
    P pre e.before ∧ e.Follows w settings operations pre := by
  have hkeep : ∀ past e, (P past e.before ∧ ∀ pre d post, past = pre ++ d :: post →
      P pre d.before ∧ d.Follows w settings operations pre) → e.Follows w settings operations past →
      P (past ++ [e]) e.after ∧ ∀ pre d post, past ++ [e] = pre ++ d :: post →
        P pre d.before ∧ d.Follows w settings operations pre := by
    rintro past e ⟨hP, hpast⟩ hfollows
    refine ⟨hstep past e hP hfollows, fun pre d post hsplit => ?_⟩
    obtain ⟨rfl, rfl⟩ | ⟨rest, hrest⟩ := last_or_earlier hsplit
    · exact ⟨hP, hfollows⟩
    · exact hpast pre d rest hrest
  exact (run_induction w (fun past s => P past s ∧ ∀ pre d post, past = pre ++ d :: post →
    P pre d.before ∧ d.Follows w settings operations pre) ⟨hinit, by simp⟩ hkeep turns).2
    pre e post hrun

end System

end LiveLesson
