import LiveLesson.Proofs.Http.Protocol

/-!
Which requests leave the quiz alone. A program that makes no call on the quiz but reading ones ends
with the quiz that it began with, and only two endpoints make others.
-/

namespace LiveLesson

def Call.LeavesQuiz : Call → Prop
  | .createQuestion _ | .insertAnswer _ => False
  | _ => True

theorem Tables.quiz_answer {a : Surroundings} {c : Call} (hc : c.LeavesQuiz) (t : Tables) :
    (answer a c t).2.quiz = t.quiz := by
  unfold answer
  cases fault? a c with
  | some e => rfl
  | none =>
    cases c with
    | createQuestion => exact hc.elim
    | insertAnswer => exact hc.elim
    | _ => rfl

theorem Program.Obeys.run_quiz {α : Type} {may : List Exchange → Call → Prop}
    {ends : List Exchange → α → Prop} {xs : List Exchange} {p : Program α}
    (hp : p.Obeys may ends xs) (hmay : ∀ xs c, may xs c → c.LeavesQuiz)
    (around : Call → Tables.Surroundings) (t : Tables) :
    (p.run (Tables.handler around) t).state.quiz = t.quiz := by
  induction p generalizing xs t with
  | done a => rfl
  | log e p ih => exact ih hp t
  | call c k ih => exact (ih _ (hp.2 _) _).trans (Tables.quiz_answer (hmay xs c hp.1) t)

namespace Http

theorem Endpoint.MayCall.leavesQuiz {e : Endpoint} {c : Call} (hc : e.MayCall c)
    (hcreate : e ≠ .createQuestion) (hsubmit : e ≠ .submitAnswer) : c.LeavesQuiz := by
  cases c with
  | createQuestion q => cases e <;> first | exact hc | exact absurd rfl hcreate
  | insertAnswer a => cases e <;> first | exact hc | exact absurd rfl hsubmit
  | _ => trivial

/-- All endpoints but two leave the quiz alone. -/
theorem App.atEndpoint_run_quiz (settings : Settings) (doc : Documentation) (key : String)
    (r : Request) (captures : Captures) {e : Endpoint} (hcreate : e ≠ .createQuestion)
    (hsubmit : e ≠ .submitAnswer) (around : Call → Tables.Surroundings) (t : Tables) :
    ((atEndpoint settings doc key r captures e).run (Tables.handler around) t).state.quiz =
      t.quiz :=
  (atEndpoint_obeys settings doc key r captures e).run_quiz
    (fun _ _ hc => hc.leavesQuiz hcreate hsubmit) around t

end Http

end LiveLesson
