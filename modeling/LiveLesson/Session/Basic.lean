import LiveLesson.Identifier
import LiveLesson.Session.Playback
import LiveLesson.Session.Status
import LiveLesson.Time.Wire

/-!
Live sessions as they are stored and as clients see them. A client sees the playback addresses of a
live session and of no other, and never learns when the media server accepted the stream.
-/

namespace LiveLesson

structure Session where
  id : SessionId
  course : CourseId
  streamKey : String
  status : Status
  startedAt : Option Timestamp
  endedAt : Option Timestamp
  /-- Set once the media server has accepted the stream key. -/
  provisionedAt : Option Timestamp
  createdAt : Timestamp
  deriving DecidableEq, Repr, Inhabited

namespace Session

def pending (id : SessionId) (course : CourseId) (streamKey : String) (now : Timestamp) : Session :=
  ⟨id, course, streamKey, .pending, none, none, none, now⟩

def after (s : Session) (t : Transition) (now : Timestamp) : Session :=
  match t with
  | .start => { s with status := t.target, startedAt := some now }
  | .finish => { s with status := t.target, endedAt := some now }

@[simp] theorem after_id (s : Session) (t : Transition) (now : Timestamp) :
    (s.after t now).id = s.id := by cases t <;> rfl

@[simp] theorem after_streamKey (s : Session) (t : Transition) (now : Timestamp) :
    (s.after t now).streamKey = s.streamKey := by cases t <;> rfl

@[simp] theorem after_status (s : Session) (t : Transition) (now : Timestamp) :
    (s.after t now).status = t.target := by cases t <;> rfl

@[simp] theorem after_createdAt (s : Session) (t : Transition) (now : Timestamp) :
    (s.after t now).createdAt = s.createdAt := by cases t <;> rfl

end Session

structure SessionView where
  id : SessionId
  course : CourseId
  streamKey : String
  status : Status
  startedAt : Option Timestamp
  endedAt : Option Timestamp
  createdAt : Timestamp
  playUrls : Option PlaybackUrls
  deriving DecidableEq, Repr, Inhabited

namespace SessionView

def record : Record SessionView where
  title := "LiveSessionResponse"
  blank := default
  fields := [
    Field.of "id" Id.wire id fun v x => { v with id := x },
    Field.of "course_id" Id.wire course fun v x => { v with course := x },
    Field.of "stream_key" Wire.string streamKey fun v x => { v with streamKey := x },
    Field.of "status" Status.wire status fun v x => { v with status := x },
    ((Field.of "started_at" (Wire.optional Timestamp.wire) startedAt
      fun v x => { v with startedAt := x }).optionalMember).omittedWhen fun v => v.startedAt.isNone,
    ((Field.of "ended_at" (Wire.optional Timestamp.wire) endedAt
      fun v x => { v with endedAt := x }).optionalMember).omittedWhen fun v => v.endedAt.isNone,
    Field.of "created_at" Timestamp.wire createdAt fun v x => { v with createdAt := x },
    ((Field.of "play_urls" (Wire.optional PlaybackUrls.record.wire) playUrls
      fun v x => { v with playUrls := x }).optionalMember).omittedWhen fun v => v.playUrls.isNone]

end SessionView

namespace Session

/-- Addresses exist while the session is live. -/
def playUrls (settings : PlaybackSettings) (s : Session) : Option PlaybackUrls :=
  if s.status = .live then some (PlaybackUrls.ofKey settings s.streamKey) else none

def view (settings : PlaybackSettings) (s : Session) : SessionView where
  id := s.id
  course := s.course
  streamKey := s.streamKey
  status := s.status
  startedAt := s.startedAt
  endedAt := s.endedAt
  createdAt := s.createdAt
  playUrls := s.playUrls settings

end Session

end LiveLesson
