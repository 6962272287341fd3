import LiveLesson.Service.Program
import LiveLesson.Session.StreamPath

/-!
The life of sessions as programs. A session is stored before the media server is asked to accept its
stream and removed again when the server refuses; every change of status is one guarded call, so
that of several who try only one succeeds.
-/

namespace LiveLesson

inductive SessionError where
  | notFound (id : SessionId)
  | invalidTransition (id : SessionId) (expected : Status)
  | provisioning (key : String) (source : MediaError)
  | store (e : StoreError)
  deriving DecidableEq, Repr

def SessionError.text : SessionError → String
  | .notFound id => "live session " ++ id.text ++ " not found"
  | .invalidTransition id expected =>
    "live session " ++ id.text ++ " not found or not " ++ expected.text
  | .provisioning key source => "failed to provision stream " ++ key ++ ": " ++ source.text
  | .store e => e.text

inductive CallbackOutcome where
  | applied (t : Transition)
  | ignored
  deriving DecidableEq, Repr

namespace LiveSession

open Program

def field (name text : String) : String × Json := (name, .string text)

/-- Removes a session whose stream was refused. A failure leaves it pending. -/
def rollBack (id : SessionId) : Program Unit := do
  match ← ask (.deleteSession id) with
  | .ok true => emit ⟨.info, "Rolled back unprovisioned session", [field "session_id" id.text]⟩
  | .ok false => emit ⟨.warn, "Unprovisioned session already gone", [field "session_id" id.text]⟩
  | .error e =>
    emit ⟨.error, "Failed to roll back unprovisioned session; row left pending",
      [field "session_id" id.text, field "error" e.caseText]⟩

/-- Notes the media server's consent. A failure is only logged, as the stream is already known
there. -/
def recordProvisioning (id : SessionId) (key : String) : Program Unit := do
  match ← ask (.markProvisioned id) with
  | .ok _ => pure ()
  | .error e =>
    emit ⟨.error, "Failed to record stream provisioning",
      [field "session_id" id.text, field "stream_key" key, field "error" e.caseText]⟩

def create (settings : PlaybackSettings) (course : CourseId) (key : String) :
    Program (Except SessionError SessionView) := do
  match ← ask (.insertPending course key) with
  | .error e => pure (.error (.store e))
  | .ok session =>
    match ← ask (.provision key) with
    | .error source => do
      emit ⟨.error, "Stream provisioning failed; rolling back session",
        [field "session_id" session.id.text, field "course_id" course.text, field "stream_key" key,
          field "error" source.text]⟩
      rollBack session.id
      pure (.error (.provisioning key source))
    | .ok _ => do
      recordProvisioning session.id key
      emit ⟨.info, "Live session created",
        [field "session_id" session.id.text, field "course_id" course.text,
          field "stream_key" session.streamKey]⟩
      pure (.ok (session.view settings))

def get (settings : PlaybackSettings) (id : SessionId) :
    Program (Except SessionError SessionView) := do
  match ← ask (.findSession id) with
  | .error e => pure (.error (.store e))
  | .ok none => pure (.error (.notFound id))
  | .ok (some session) => pure (.ok (session.view settings))

def transition (id : SessionId) (t : Transition) : Program (Except SessionError Unit) := do
  match ← ask (.transitionById id t) with
  | .error e => pure (.error (.store e))
  | .ok false => pure (.error (.invalidTransition id t.source))
  | .ok true => do
    emit ⟨.info, "Live session transitioned",
      [field "session_id" id.text, field "status" t.target.text]⟩
    pure (.ok ())

def start (id : SessionId) : Program (Except SessionError Unit) := transition id .start

def finish (id : SessionId) : Program (Except SessionError Unit) := transition id .finish

def eventText : StreamEvent → String
  | .start => "Start"
  | .stop => "Stop"

/-- Applies a media server's event. Unknown keys and events in another status are ignored, so an
event that is delivered again does no harm. -/
def applyEvent (key : String) (event : StreamEvent) :
    Program (Except SessionError CallbackOutcome) := do
  let t := event.transition
  match ← ask (.transitionByKey key t) with
  | .error e => pure (.error (.store e))
  | .ok true => do
    emit ⟨.info, "Live session transitioned by media server",
      [field "stream_key" key, field "status" t.target.text]⟩
    pure (.ok (.applied t))
  | .ok false => do
    emit ⟨.debug, "Ignoring media server event with no matching session in expected state",
      [field "stream_key" key, field "event" (eventText event)]⟩
    pure (.ok .ignored)

end LiveSession

end LiveLesson
