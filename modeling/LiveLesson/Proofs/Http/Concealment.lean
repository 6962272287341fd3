import LiveLesson.Proofs.Http.Protocol

/-!
What clients learn of failures inside the service. Two conversations in which the same calls fail at
the same points have the same responses and leave the same tables, whatever else there is to say
about the failures.
-/

namespace LiveLesson.Http

open Program

namespace App

variable (settings : Settings) (doc : Documentation)

theorem atRoute_akin (key : String) (r : Request) (route : Option (Endpoint × Captures)) :
    Akin (atRoute settings doc key r route) (atRoute settings doc key r route) := by
  unfold atRoute
  split
  · exact .done _
  · split
    · exact (atEndpoint_inStep settings doc _ _ _ _).akin
    · exact .done _

theorem pass_akin (requestId : String) (r : Request) (response : Response) :
    Akin (FailureLog.pass requestId r response) (FailureLog.pass requestId r response) := by
  unfold FailureLog.pass
  split
  · exact .done _
  · split
    · exact .log _ _ (.done _)
    · exact .log _ _ (.done _)

theorem inner_akin (key requestId : String) (r : Request) :
    Akin (inner settings doc key requestId r) (inner settings doc key requestId r) := by
  unfold inner
  split
  · exact .done _
  · refine (atRoute_akin settings doc _ _ _).bind fun response => ?_
    exact (pass_akin _ _ response).bind fun response => .done _

theorem serve_akin (fresh : Fresh) (r : Request) :
    Akin (serve settings doc fresh r) (serve settings doc fresh r) :=
  (inner_akin settings doc _ _ r).bind fun _ => .done _

end App

/-- The same request under the same names at the same time. The same calls fail, and equally
fatally, but their failures may have nothing else in common. -/
structure Visit.Blurred (v v' : Visit) : Prop where
  request : v'.request = v.request
  fresh : v'.fresh = v.fresh
  around : ∀ c, (v.around c).Blurred c (v'.around c)

theorem App.visit_blurred (settings : Settings) (doc : Documentation) {v v' : Visit}
    (h : v.Blurred v') (t : Tables) :
    (visit settings doc v' t).result = (visit settings doc v t).result ∧
      (visit settings doc v' t).state = (visit settings doc v t).state := by
  have hhandler : ∀ c t, c.Blurred (Tables.handler v.around c t).1
      (Tables.handler v'.around c t).1 ∧
      (Tables.handler v'.around c t).2 = (Tables.handler v.around c t).2 :=
    fun c t => Tables.answer_blurred (h.around c) t
  obtain ⟨hresult, hstate⟩ := (serve_akin settings doc v.fresh v.request).run hhandler t
  rw [visit, h.request, h.fresh]
  exact ⟨hresult.symm, hstate⟩

/-- Nothing about a failure inside the service reaches a client but that it happened, and nothing of
it has an effect on what comes later. Two conversations that differ only in what their failures are
have the same responses and end with the same tables. -/
theorem details_concealed (settings : Settings) (doc : Documentation) (t : Tables)
    (visits visits' : List Visit) (h : List.Forall₂ Visit.Blurred visits visits') :
    App.converse settings doc t visits' = App.converse settings doc t visits := by
  induction h generalizing t with
  | nil => rfl
  | cons hv _ ih =>
    obtain ⟨hresult, hstate⟩ := App.visit_blurred settings doc hv t
    simp only [App.converse, hresult, hstate, ih]

/-- The media server refuses the stream of a new session, and the session cannot be removed. -/
def failedCreation (refusal : MediaError) (fault : StoreError) : Visit :=
  { posted "/api/live/sessions" "[7]" with
    around := fun c => ⟨⟨0, 0⟩, if c = .deleteSession ⟨1⟩ then some fault else none,
      .error refusal⟩ }

/-- Neither what the media server said nor why the session stays can be learned from the response or
from the tables. -/
theorem refusal_concealed :
    App.converse .standard .null .empty
    [failedCreation (.rejected 403 "wrong secret") .poolClosed] =
      App.converse .standard .null .empty
      [failedCreation (.request "connection refused") (.database "deadlock")] := by
  refine details_concealed .standard .null .empty _ _ (.cons ⟨rfl, rfl, fun c => ⟨rfl, ?_⟩⟩ .nil)
  by_cases hc : c = .deleteSession ⟨1⟩
  · subst hc
    exact .some rfl
  · cases c with
    | provision key => exact .some rfl
    | _ =>
      simp only [failedCreation, hc, Tables.Surroundings.failure?, Tables.fault?]
      exact .none

end LiveLesson.Http
