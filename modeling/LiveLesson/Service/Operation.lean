import LiveLesson.Service.LiveSession

/-!
What clients and the media server ask of the service about sessions, as values.
-/

namespace LiveLesson

inductive Operation where
  | create (course : CourseId) (key : String)
  | get (id : SessionId)
  | start (id : SessionId)
  | finish (id : SessionId)
  | event (key : String) (e : StreamEvent)
  deriving DecidableEq, Repr

namespace Operation

inductive Answer where
  | session (v : SessionView)
  | moved
  | callback (o : CallbackOutcome)

abbrev Outcome := Except SessionError Answer

def program (settings : PlaybackSettings) : Operation → Program Outcome
  | create course key => Except.map .session <$> LiveSession.create settings course key
  | get id => Except.map .session <$> LiveSession.get settings id
  | start id => Except.map (fun _ => .moved) <$> LiveSession.start id
  | finish id => Except.map (fun _ => .moved) <$> LiveSession.finish id
  | event key e => Except.map .callback <$> LiveSession.applyEvent key e

end Operation

end LiveLesson
