import LiveLesson.Http.Payload
import LiveLesson.Message
import LiveLesson.Quiz.Payload
import LiveLesson.Session.Payload

/-!
What each endpoint does. A handler reads what it needs from the request and ends with a response,
calling the store and the media server on the way.
-/

namespace LiveLesson.Http

namespace Handlers

open Program

def orAnswer {α : Type} (r : Except ApiError α) (k : α → Program Response) : Program Response :=
  match r with
  | .ok a => k a
  | .error e => e.answer

def ok {α : Type} (r : Record α) (a : α) : Response := Response.json 200 (r.encode a)

def created {α : Type} (r : Record α) (a : α) : Response := Response.json 201 (r.encode a)

def acknowledge (text : String) : Response := ok Message.record ⟨text⟩

def createSession (settings : PlaybackSettings) (key : String) (r : Request) : Program Response :=
  orAnswer (payload CreateSession.record CreateSession.violations r) fun p => do
    let result ← LiveSession.create settings ⟨p.courseId⟩ key
    orAnswer (result.mapError ApiError.ofSessionError) fun view =>
      pure (created SessionView.record view)

def getSession (settings : PlaybackSettings) (captures : Captures) : Program Response :=
  orAnswer ((oneNumber captures).mapError ApiError.ofPathError) fun n => do
    let result ← LiveSession.get settings ⟨n⟩
    orAnswer (result.mapError ApiError.ofSessionError) fun view => pure (ok SessionView.record view)

/-- A path that names no identifier is answered like one that names an unknown session. -/
def transition (t : Transition) (done : String) (captures : Captures) : Program Response :=
  orAnswer ((oneNumber captures).mapError fun _ => ApiError.invalidTransition t.source) fun n => do
    let result ← LiveSession.transition ⟨n⟩ t
    orAnswer (result.mapError ApiError.ofSessionError) fun _ => pure (acknowledge done)

def startSession (captures : Captures) : Program Response :=
  transition .start "Live session started" captures

def endSession (captures : Captures) : Program Response :=
  transition .finish "Live session ended" captures

/-- Acknowledges every report with a stream path, also one that changes nothing. -/
def streamStatus (r : Request) : Program Response :=
  orAnswer (payload StatusCallback.record StatusCallback.violations r) fun p =>
    match StreamPath.key? p.streamPath with
    | none => (ApiError.ofStreamPath p.streamPath).answer
    | some key =>
      match StreamEvent.read? p.status with
      | none => do
        emit ⟨.debug, "Ignoring unrecognised media server status",
          [LiveSession.field "stream_key" key, LiveSession.field "status" p.status]⟩
        pure (acknowledge "Status ignored")
      | some event => do
        let result ← LiveSession.applyEvent key event
        orAnswer (result.mapError ApiError.ofSessionError) fun outcome =>
          pure <| acknowledge <|
            match outcome with
            | .applied _ => "Status applied"
            | .ignored => "Status ignored"

def questionNotFound : ApiError := .notFound "Question not found"

def createQuestion (r : Request) : Program Response :=
  orAnswer (payload CreateQuestion.record CreateQuestion.violations r) fun p => do
    let result : Except StoreError Question ← ask (.createQuestion p.toNew)
    orAnswer (result.mapError ApiError.ofStoreError) fun question => do
      emit ⟨.info, "Question created",
        [LiveSession.field "question_id" question.id.text,
          LiveSession.field "course_id" question.course.text,
          LiveSession.field "question_type" question.type.text]⟩
      pure (created Question.record question)

def pushQuestion (captures : Captures) : Program Response :=
  orAnswer ((twoNumbers captures).mapError ApiError.ofPathError) fun (course, id) => do
    let result : Except StoreError (Option Question) ← ask (.findQuestion ⟨course⟩ ⟨id⟩)
    orAnswer (result.mapError ApiError.ofStoreError) fun found =>
      match found with
      | none => questionNotFound.answer
      | some question => pure (ok QuestionView.record question.view)

def submitAnswer (r : Request) : Program Response :=
  orAnswer (payload SubmitAnswer.record SubmitAnswer.violations r) fun p => do
    let answer := p.toNew
    let result : Except StoreError Bool ← ask (.insertAnswer answer)
    orAnswer (result.mapError ApiError.ofStoreError) fun known =>
      if known then do
        emit ⟨.debug, "Answer recorded",
          [LiveSession.field "question_id" answer.question.text,
            LiveSession.field "student_id" answer.student.text]⟩
        pure (acknowledge "Answer submitted")
      else questionNotFound.answer

def questionResult (captures : Captures) : Program Response :=
  orAnswer ((oneNumber captures).mapError ApiError.ofPathError) fun n => do
    let result : Except StoreError (Option Tally) ← ask (.tally ⟨n⟩)
    orAnswer (result.mapError ApiError.ofStoreError) fun found =>
      match found with
      | none => questionNotFound.answer
      | some t => pure (ok Tally.record t)

def health : Program Response := do
  let result : Except StoreError Unit ← ask .checkDatabase
  match result with
  | .error e => do
    emit ⟨.error, "Database health check failed", [LiveSession.field "error" e.caseText]⟩
    (ApiError.unavailable "Database unavailable").answer
  | .ok _ => pure (Response.json 200 (.object [("status", .string "ok")]))

end Handlers

end LiveLesson.Http
