import LiveLesson.ApiDoc.Basic

/-! The description of the service's own interface. -/

namespace LiveLesson.ApiDoc

open Property

def identifiers : List Schema := [
  ⟨"SessionId", some "Store-assigned identifier of a live session.", .identifier⟩,
  ⟨"CourseId", some "Identifier of the course a session or question belongs to.", .identifier⟩,
  ⟨"QuestionId", some "Store-assigned identifier of a quiz question.", .identifier⟩]

def sessionSchemas : List Schema := [
  ⟨"CreateLiveSessionRequest", some "Payload for creating a live session.",
    .record [required "course_id" .integer]⟩,
  ⟨"LiveSessionResponse", none, .record [
    required "id" (.named "SessionId"),
    required "course_id" (.named "CourseId"),
    required "stream_key" .text,
    required "status" (.named "SessionStatus"),
    nullable "started_at" .moment,
    nullable "ended_at" .moment,
    required "created_at" .moment,
    (nullable "play_urls" (.named "PlaybackUrls")).describedAs
    "Present only while the session is live."]⟩,
  ⟨"PlaybackUrls", some "Viewer-facing URLs for a live stream.",
    .record [required "rtmp" .text, required "flv" .text, required "hls" .text]⟩,
  ⟨"SessionStatus",
    some "Lifecycle state of a live session. Only `pending -> live -> ended` is legal.",
    .choice ["pending", "live", "ended"]⟩,
  ⟨"StreamStatusCallback", some "Status callback body posted by the media server.", .record [
    required "streamPath" .text,
    (optional "status" .text).describedAs
    "Missing or unrecognised values are acknowledged as no-ops."]⟩]

def quizSchemas : List Schema := [
  ⟨"CreateQuestionRequest", some "Payload for creating a question.", .record [
    required "course_id" .integer,
    required "type" (.named "QuestionType"),
    required "content" .text,
    optional "options" .texts,
    required "answer" .text]⟩,
  ⟨"Question", none, .record [
    required "id" (.named "QuestionId"),
    required "course_id" (.named "CourseId"),
    required "type" (.named "QuestionType"),
    required "content" .text,
    required "options" .texts,
    (required "answer" .text).describedAs "Correct answer text.",
    required "created_at" .moment]⟩,
  ⟨"QuestionType", none, .choice ["single_choice", "multiple_choice", "true_false",
    "short_answer"]⟩,
  ⟨"QuestionPushResponse", some
    "Student-facing view of a question; the correct answer is withheld.", .record [
    required "id" (.named "QuestionId"),
    required "course_id" (.named "CourseId"),
    required "type" (.named "QuestionType"),
    required "content" .text,
    optional "options" .texts]⟩,
  ⟨"SubmitAnswerRequest", some "Payload for submitting an answer.", .record [
    required "question_id" .integer,
    required "student_id" .integer,
    required "answer" .text]⟩,
  ⟨"QuestionResult", none, .record [
    required "question_id" (.named "QuestionId"),
    required "total" .integer,
    required "correct" .integer]⟩]

def sharedSchemas : List Schema := [
  ⟨"MessageResponse", some "Plain acknowledgement body.", .record [required "message" .text]⟩,
  ⟨"HealthResponse", none, .record [required "status" .text]⟩,
  ⟨"ErrorResponse", none, .record [
    required "error" .text,
    required "code" .text,
    optional "details" .anything]⟩]

def refusal (status : Nat) (description : String) : Response :=
  ⟨status, description, "ErrorResponse"⟩

def sessionId : Parameter := ⟨"id", "Session id"⟩

def courseId : Parameter := ⟨"course_id", "Course id"⟩

def questionId : Parameter := ⟨"question_id", "Question id"⟩

def sessionOperations : List Operation := [
  ⟨"/api/live/sessions", "post", "create_live_session_doc", "Live", [],
    some "CreateLiveSessionRequest",
    [⟨201, "Session created in pending state", "LiveSessionResponse"⟩,
      refusal 400 "Invalid course id", refusal 500 "Store or streaming backend failure"]⟩,
  ⟨"/api/live/sessions/\x7bid\x7d", "get", "get_live_session_doc", "Live", [sessionId], none,
    [⟨200, "Play URLs are present only while live", "LiveSessionResponse"⟩, refusal 404 ""]⟩,
  ⟨"/api/live/sessions/\x7bid\x7d/start", "post", "start_live_session_doc", "Live",
    [sessionId], none, [⟨200, "", "MessageResponse"⟩, refusal 400 "Not found or not pending"]⟩,
  ⟨"/api/live/sessions/\x7bid\x7d/end", "post", "end_live_session_doc", "Live", [sessionId], none,
    [⟨200, "", "MessageResponse"⟩, refusal 400 "Not found or not live"]⟩,
  ⟨"/api/live/status", "post", "stream_status_doc", "Live", [], some "StreamStatusCallback",
    [⟨200, "Acknowledged, including no-ops", "MessageResponse"⟩,
      refusal 400 "Malformed stream path", refusal 500 ""]⟩]

def quizOperations : List Operation := [
  ⟨"/api/question/create", "post", "create_question_doc", "Quiz", [], some "CreateQuestionRequest",
    [⟨201, "", "Question"⟩, refusal 400 ""]⟩,
  ⟨"/api/question/push/\x7bcourse_id\x7d/\x7bquestion_id\x7d", "get", "push_question_doc", "Quiz",
    [courseId, questionId], none,
    [⟨200, "Question without its answer", "QuestionPushResponse"⟩, refusal 404 ""]⟩,
  ⟨"/api/question/submit", "post", "submit_answer_doc", "Quiz", [], some "SubmitAnswerRequest",
    [⟨200, "", "MessageResponse"⟩, refusal 400 "", refusal 404 "Unknown question"]⟩,
  ⟨"/api/question/result/\x7bquestion_id\x7d", "get", "question_result_doc", "Quiz",
    [questionId], none, [⟨200, "", "QuestionResult"⟩, refusal 404 ""]⟩]

def healthOperation : Operation :=
  ⟨"/api/health", "get", "health_doc", "Ops", [], none,
    [⟨200, "", "HealthResponse"⟩, refusal 503 ""]⟩

def document : Document where
  title := "classlive-backend"
  description := ""
  version := "0.1.0"
  contact := "classlive"
  license := "MIT"
  tags := [
    ⟨"Live", "Live session lifecycle and media server callbacks"⟩,
    ⟨"Quiz", "In-class questions and answers"⟩,
    ⟨"Ops", "Health"⟩]
  schemas := identifiers ++ sessionSchemas ++ quizSchemas ++ sharedSchemas
  operations := sessionOperations ++ quizOperations ++ [healthOperation]

end LiveLesson.ApiDoc
