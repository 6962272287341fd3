import LiveLesson.Http.Message
import LiveLesson.Service.Program

/-!
The log of failed requests. Each response with a failure status is logged with the beginning of its
body. A body that is too large to be buffered is lost: the response goes out without it.
-/

namespace LiveLesson.Http.FailureLog

/-- The largest body that is buffered, in bytes. -/
def maxBuffered : Nat := 65536

def maxLogged : Nat := 2048

/-- The beginning of a body. It may be cut inside a character. -/
def preview (body : String) : String :=
  if maxLogged < body.utf8ByteSize then
    Text.Utf8.decodeLossy ((Text.Utf8.encode body).take maxLogged) ++ "... (truncated, " ++
      toString body.utf8ByteSize ++ " bytes total)"
  else body

def level (status : Nat) : LogLevel := if 500 ≤ status then .error else .warn

def fields (requestId : String) (r : Request) (status : Nat) : List (String × Json) :=
  [("status", .integer status), ("method", .string r.method), ("uri", .string r.target),
    ("request_id", .string requestId)]

def event (requestId : String) (r : Request) (response : Response) : LogEvent :=
  let text := if 500 ≤ response.status then "Request failed" else "Request rejected"
  ⟨level response.status, text,
    fields requestId r response.status ++ [("body", .string (preview response.body))]⟩

def lostEvent (requestId : String) (r : Request) (response : Response) : LogEvent :=
  ⟨level response.status, "Failed to read error response body",
    fields requestId r response.status ++
      [("error", .string "Error \x7b inner: LengthLimitError \x7d")]⟩

def pass (requestId : String) (r : Request) (response : Response) : Program Response :=
  if !response.isFailure then pure response
  else if response.body.utf8ByteSize ≤ maxBuffered then
    .log (event requestId r response) (pure response)
  else .log (lostEvent requestId r response) (pure { response with body := "" })

end LiveLesson.Http.FailureLog
