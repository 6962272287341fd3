import LiveLesson.Validation
import LiveLesson.Wire.Record

/-!
What clients and the media server send about sessions: a request to create one, and reports that a
publisher has come or gone.
-/

namespace LiveLesson

structure CreateSession where
  courseId : Int
  deriving DecidableEq, Repr, Inhabited

namespace CreateSession

def record : Record CreateSession where
  title := "CreateLiveSessionRequest"
  blank := default
  fields := [Field.of "course_id" Wire.int64 courseId fun p x => { p with courseId := x }]

def violations (p : CreateSession) : List Violation := Rule.positive "course_id" p.courseId

end CreateSession

/-- A media server's report. The status may be missing; it is looked at only by the one who acts on
it. -/
structure StatusCallback where
  streamPath : String
  status : String
  deriving DecidableEq, Repr, Inhabited

namespace StatusCallback

def record : Record StatusCallback where
  title := "StreamStatusCallback"
  blank := default
  fields := [
    (Field.of "streamPath" Wire.string streamPath fun p x => { p with streamPath := x }).withAlias
      "stream_path",
    (Field.of "status" Wire.string status fun p x => { p with status := x }).withDefault]

def violations (p : StatusCallback) : List Violation :=
  Rule.lengthWithin "status" 0 64 p.status ++ Rule.lengthWithin "stream_path" 1 512 p.streamPath

end StatusCallback

end LiveLesson
