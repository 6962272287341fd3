import LiveLesson.Proofs.Service.AlikeAnswers
import LiveLesson.Service.Operation

/-!
Operations under corresponding identifiers make corresponding calls, as long as they are answered
alike, and end alike.
-/

namespace LiveLesson

variable (m : Correspondence)

structure SessionView.Alike (v v' : SessionView) : Prop where
  id : v'.id = m.ids v.id
  course : v'.course = v.course
  streamKey : v'.streamKey = v.streamKey
  status : v'.status = v.status
  startedAt : Option.Rel m.moments v.startedAt v'.startedAt
  endedAt : Option.Rel m.moments v.endedAt v'.endedAt
  createdAt : m.moments v.createdAt v'.createdAt
  playUrls : v'.playUrls = v.playUrls

theorem Session.Alike.view {m : Correspondence} {s s' : Session} (h : s.Alike m s')
    (settings : PlaybackSettings) :
    (s.view settings).Alike m (s'.view settings) where
  id := h.id
  course := h.course
  streamKey := h.streamKey
  status := h.status
  startedAt := h.startedAt
  endedAt := h.endedAt
  createdAt := h.createdAt
  playUrls := by
    show s'.playUrls settings = s.playUrls settings
    rw [Session.playUrls, Session.playUrls, h.status, h.streamKey]

namespace Operation

def rename (ids : Equiv.Perm SessionId) : Operation → Operation
  | get id => get (ids id)
  | start id => start (ids id)
  | finish id => finish (ids id)
  | create course key => create course key
  | event key e => event key e

inductive Outcome.Alike : Outcome → Outcome → Prop
  | session {v v' : SessionView} : v.Alike m v' → Alike (.ok (.session v)) (.ok (.session v'))
  | moved : Alike (.ok .moved) (.ok .moved)
  | callback (o : CallbackOutcome) : Alike (.ok (.callback o)) (.ok (.callback o))
  | notFound (id : SessionId) : Alike (.error (.notFound id)) (.error (.notFound (m.ids id)))
  | invalidTransition (id : SessionId) (st : Status) :
    Alike (.error (.invalidTransition id st)) (.error (.invalidTransition (m.ids id) st))
  | provisioning (key : String) (e : MediaError) :
    Alike (.error (.provisioning key e)) (.error (.provisioning key e))
  | store {e e' : StoreError} : e.Alike e' → Alike (.error (.store e)) (.error (.store e'))

end Operation

namespace Program

variable {α β : Type} {post : α → β → Prop}

/-- Programs that make corresponding calls and go on alike after alike answers, to results that
fit. -/
inductive Alike (post : α → β → Prop) : Program α → Program β → Prop
  | done {a b} : post a b → Alike post (.done a) (.done b)
  | log {p q} (e e' : LogEvent) : Alike post p q → Alike post (.log e p) (.log e' q)
  | call {c c' k k'} : c.Alike m.ids c' →
    (∀ o o', Exchange.Alike m ⟨c, o⟩ ⟨c', o'⟩ → Alike post (k o) (k' o')) →
    Alike post (.call c k) (.call c' k')

namespace Alike

variable {m} {p : Program α} {q : Program β}

theorem next? (h : p.Alike m post q) : (p.next? = none ∧ q.next? = none) ∨
    ∃ c k c' k', p.next? = some ⟨c, k⟩ ∧ q.next? = some ⟨c', k'⟩ ∧ c.Alike m.ids c' ∧
      ∀ o o', Exchange.Alike m ⟨c, o⟩ ⟨c', o'⟩ → (k o).Alike m post (k' o') := by
  induction h with
  | done hab => exact .inl ⟨rfl, rfl⟩
  | log e e' _ ih => exact ih
  | call hc hk _ => exact .inr ⟨_, _, _, _, rfl, rfl, hc, hk⟩

theorem result? (h : p.Alike m post q) : Option.Rel post p.result? q.result? := by
  induction h with
  | done hab => exact .some hab
  | log e e' _ ih => exact ih
  | call hc hk _ => exact .none

end Alike

end Program

namespace Operation

variable {m} (settings : PlaybackSettings)

theorem create_alike (course : CourseId) (key : String) :
    ((create course key).program settings).Alike m (Outcome.Alike m)
    ((create course key).program settings) := by
  refine .call (.insertPending course key) fun o o' h => ?_
  cases h with
  | notInserted he => exact .done (.store he)
  | @inserted _ _ s s' hs =>
    refine .call (.provision key) fun o o' h => ?_
    obtain ⟨o⟩ := h
    cases o with
    | error e =>
      refine .log _ _ (.call (.deleteSession hs.id) fun o o' h => ?_)
      obtain ⟨o⟩ := h
      rcases o with err | (_ | _)
      · exact .log _ _ (.done (.provisioning key e))
      · exact .log _ _ (.done (.provisioning key e))
      · exact .log _ _ (.done (.provisioning key e))
    | ok u =>
      refine .call (.markProvisioned hs.id) fun o o' h => ?_
      obtain ⟨o⟩ := h
      cases o with
      | error err => exact .log _ _ (.log _ _ (.done (.session (hs.view settings))))
      | ok b => exact .log _ _ (.done (.session (hs.view settings)))

theorem program_alike (o : Operation) :
    (o.program settings).Alike m (Outcome.Alike m) ((o.rename m.ids).program settings) := by
  cases o with
  | create course key => exact create_alike settings course key
  | get id =>
    refine .call (.findSession rfl) fun o o' h => ?_
    cases h with
    | notFound _ => exact .done (.store (.same _))
    | found _ hfound =>
      cases hfound with
      | none => exact .done (.notFound id)
      | some hs => exact .done (.session (hs.view settings))
  | start id =>
    refine .call (.transitionById .start rfl) fun o o' h => ?_
    obtain ⟨o⟩ := h
    rcases o with err | (_ | _)
    · exact .done (.store (.same err))
    · exact .done (.invalidTransition id .pending)
    · exact .log _ _ (.done .moved)
  | finish id =>
    refine .call (.transitionById .finish rfl) fun o o' h => ?_
    obtain ⟨o⟩ := h
    rcases o with err | (_ | _)
    · exact .done (.store (.same err))
    · exact .done (.invalidTransition id .live)
    · exact .log _ _ (.done .moved)
  | event key v =>
    refine .call (.transitionByKey key v.transition) fun o o' h => ?_
    obtain ⟨o⟩ := h
    rcases o with err | (_ | _)
    · exact .done (.store (.same err))
    · exact .log _ _ (.done (.callback .ignored))
    · exact .log _ _ (.done (.callback (.applied v.transition)))

end Operation

end LiveLesson
