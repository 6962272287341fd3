import LiveLesson.Http.ContentType
import LiveLesson.Http.Error
import LiveLesson.Validation
import LiveLesson.Wire.Record

/-!
Bodies of requests. A body has to be announced as JSON, be of limited size, have the form of its
record and keep the record's rules; the first of these that fails is answered, the last with every
broken rule.
-/

namespace LiveLesson.Http

def maxBodySize : Nat := 2097152

inductive BodyError where
  | notJson
  | tooLarge
  | unreadable (f : Json.Failure)
  deriving DecidableEq, Repr

def BodyError.message (whole : List UInt8) : BodyError → String
  | .notJson => "Expected request with `Content-Type: application/json`"
  | .tooLarge => "Failed to buffer the request body: length limit exceeded"
  | .unreadable f =>
    let lead := match f.problem.kind with
      | .unfit => "Failed to deserialize the JSON body into the target type: "
      | _ => "Failed to parse the request body as JSON: "
    lead ++ f.messageWithPath whole

/-- Announced as JSON: the first content type counts, and it has to be text. -/
def Request.isJson (r : Request) : Bool :=
  (r.header? "content-type").any fun value => isHeaderText value && ContentType.isJson value

def readBody {α : Type} (w : Wire α) (r : Request) : Except BodyError α :=
  if !r.isJson then .error .notJson
  else if maxBodySize < r.body.length then .error .tooLarge
  else (w.parse r.body).mapError .unreadable

def payload {α : Type} (record : Record α) (violations : α → List Violation) (r : Request) :
    Except ApiError α :=
  match readBody record.wire r with
  | .error e => .error (.badRequest (e.message r.body))
  | .ok p =>
    match violations p with
    | [] => .ok p
    | vs => .error (.validation (vs.map Violation.text))

end LiveLesson.Http
