import LiveLesson.Proofs.Service.Exchanges

/-!
Two runs of a program whose calls fail at the same points, but not in the same way. As long as it is
the same whether a failure is fatal, the program makes the same calls, leaves the same tables, and
ends alike but for the errors.
-/

namespace LiveLesson

inductive SameUpTo {ε α : Type} (R : ε → ε → Prop) : Except ε α → Except ε α → Prop
  | ok (a : α) : SameUpTo R (.ok a) (.ok a)
  | error {e e' : ε} : R e e' → SameUpTo R (.error e) (.error e')

namespace SameUpTo

variable {ε α : Type} {R : ε → ε → Prop}

theorem refl (hR : ∀ e, R e e) (r : Except ε α) : SameUpTo R r r := by
  cases r with
  | ok a => exact .ok a
  | error e => exact .error (hR e)

end SameUpTo

/-- Outcomes of a call that differ only in what a failure is, not in whether it is fatal. -/
abbrev Call.Blurred (c : Call) : c.Outcome → c.Outcome → Prop :=
  SameUpTo fun e e' => c.isFatal e' = c.isFatal e

theorem Call.blurred_refl (c : Call) (o : c.Outcome) : c.Blurred o o :=
  SameUpTo.refl (fun e => Eq.refl (c.isFatal e)) o

namespace Program

variable {α β σ : Type}

/-- Programs that make the same calls and go on alike after blurred outcomes, to the same result.
What they log may differ. -/
inductive Akin : Program α → Program α → Prop
  | done (a : α) : Akin (.done a) (.done a)
  | logLeft {p q} (e : LogEvent) : Akin p q → Akin (.log e p) q
  | logRight {p q} (e : LogEvent) : Akin p q → Akin p (.log e q)
  | call {c k k'} : (∀ o o', c.Blurred o o' → Akin (k o) (k' o')) → Akin (.call c k) (.call c k')

namespace Akin

variable {p q : Program α}

theorem log (e e' : LogEvent) (h : Akin p q) : Akin (.log e p) (.log e' q) :=
  .logLeft e (.logRight e' h)

theorem bind (hp : Akin p q) {f g : α → Program β} (hf : ∀ a, Akin (f a) (g a)) :
    Akin (p >>= f) (q >>= g) := by
  induction hp with
  | done a => exact hf a
  | logLeft e _ ih => exact .logLeft e ih
  | logRight e _ ih => exact .logRight e ih
  | call _ ih => exact .call fun o o' h => ih o o' h

/-- Handlers that answer the same call in the same state with blurred outcomes and the same next
state lead programs that are akin to the same end. -/
theorem run (hp : Akin p q) {h h' : Handler σ}
    (hh : ∀ c s, c.Blurred (h c s).1 (h' c s).1 ∧ (h' c s).2 = (h c s).2) (s : σ) :
    (p.run h s).result = (q.run h' s).result ∧ (q.run h' s).state = (p.run h s).state := by
  induction hp generalizing s with
  | done a => exact ⟨rfl, rfl⟩
  | logLeft e _ ih => exact ih s
  | logRight e _ ih => exact ih s
  | @call c k k' _ ih =>
    obtain ⟨houtcome, hstate⟩ := hh c s
    simp only [Program.run, hstate]
    exact ih _ _ houtcome (h c s).2

end Akin

end Program

namespace Tables

/-- What a call fails with in its surroundings, if it does not reach the tables. -/
def Surroundings.failure? (s : Surroundings) (c : Call) : Option c.Failure :=
  match c with
  | .provision _ =>
    match s.media with
    | .error e => some e
    | .ok _ => none
  | c => fault? s c

/-- Surroundings in which a call fails at the same time and equally fatally, if it does. -/
structure Surroundings.Blurred (c : Call) (s s' : Surroundings) : Prop where
  now : s'.now = s.now
  failure : Option.Rel (fun e e' => c.isFatal e' = c.isFatal e) (s.failure? c) (s'.failure? c)

variable {c : Call} {s s' : Surroundings}

theorem answer_of_failure {e : c.Failure} (h : s.failure? c = some e) (t : Tables) :
    answer s c t = (.error e, t) := by
  cases c with
  | provision key =>
    obtain ⟨now, fault, media⟩ := s
    cases media with
    | error e' =>
      cases h
      rfl
    | ok u => cases h
  | _ =>
    simp only [Surroundings.failure?] at h
    simp only [answer, h]

theorem answer_of_no_failure (h : s.failure? c = none) (t : Tables) :
    answer s c t = t.perform ⟨s.now, none, .ok ()⟩ c := by
  cases c with
  | provision key =>
    obtain ⟨now, fault, media⟩ := s
    cases media with
    | error e => cases h
    | ok u => rfl
  | _ =>
    simp only [Surroundings.failure?] at h
    simp only [answer, h]
    rfl

theorem answer_blurred (h : s.Blurred c s') (t : Tables) :
    c.Blurred (answer s c t).1 (answer s' c t).1 ∧ (answer s' c t).2 = (answer s c t).2 := by
  have hfailure := h.failure
  cases hs : s.failure? c with
  | some e =>
    cases hs' : s'.failure? c with
    | some e' =>
      rw [hs, hs'] at hfailure
      rw [answer_of_failure hs, answer_of_failure hs']
      cases hfailure with
      | some he => exact ⟨.error he, rfl⟩
    | none =>
      rw [hs, hs'] at hfailure
      cases hfailure
  | none =>
    cases hs' : s'.failure? c with
    | some e' =>
      rw [hs, hs'] at hfailure
      cases hfailure
    | none =>
      rw [answer_of_no_failure hs, answer_of_no_failure hs', h.now]
      exact ⟨c.blurred_refl _, rfl⟩

end Tables

end LiveLesson
