import LiveLesson.Service.LiveSession

/-!
What programs write to the log. A predicate on lines that a program keeps holds of every line of its
runs, whatever its calls are answered.
-/

namespace LiveLesson

namespace Program

variable {α β σ : Type} {P : LogEvent → Prop}

def Logs (P : LogEvent → Prop) : Program α → Prop
  | .done _ => True
  | .log e p => P e ∧ p.Logs P
  | .call _ k => ∀ o, (k o).Logs P

theorem Logs.run {p : Program α} (hp : p.Logs P) (h : Handler σ) (s : σ) :
    ∀ e ∈ (p.run h s).logs, P e := by
  induction p generalizing s with
  | done a => simp [Program.run]
  | log e p ih =>
    intro e' he'
    rcases List.mem_cons.1 he' with rfl | he'
    · exact hp.1
    · exact ih hp.2 s e' he'
  | call c k ih => exact ih (h c s).1 (hp (h c s).1) (h c s).2

theorem logs_run_bind (h : Handler σ) (p : Program α) (f : α → Program β) (s : σ) :
    ((p >>= f).run h s).logs =
      (p.run h s).logs ++ ((f (p.run h s).result).run h (p.run h s).state).logs := by
  induction p generalizing s with
  | done a => rfl
  | log e p ih => exact congrArg (e :: ·) (ih s)
  | call c k ih => exact ih (h c s).1 (h c s).2

theorem run_map (h : Handler σ) (p : Program α) (f : α → β) (s : σ) :
    (p >>= fun a => pure (f a)).run h s =
    ⟨f (p.run h s).result, (p.run h s).state, (p.run h s).calls, (p.run h s).logs⟩ := by
  induction p generalizing s with
  | done a => rfl
  | log e p ih => simp only [log_bind, run, ih]
  | call c k ih => simp only [call_bind, run, ih]

theorem bind_assoc {γ : Type} (p : Program α) (f : α → Program β) (g : β → Program γ) :
    (p >>= f) >>= g = p >>= fun a => f a >>= g := by
  induction p with
  | done a => rfl
  | log e p ih => exact congrArg (Program.log e) ih
  | call c k ih => exact congrArg (Program.call c) (funext fun o => ih o)

end Program

def LogEvent.IsAnonymous (e : LogEvent) : Prop := e.fields.lookup "request_id" = none

end LiveLesson
