import LiveLesson.Http.Message
import LiveLesson.Http.Route
import LiveLesson.Service.LiveSession

/-!
How failures are told to clients. Each has a status, a code and a sentence; what went wrong inside
the service goes to the log and never into the answer.
-/

namespace LiveLesson.Http

inductive ApiError where
  | notFound (message : String)
  | badRequest (message : String)
  | mediaServer (message : String)
  | unavailable (message : String)
  /-- What happened and what caused it, outermost first. -/
  | internal (message : String) (causes : List String)
  | validation (entries : List String)
  deriving DecidableEq, Repr

namespace ApiError

def status : ApiError → Nat
  | .notFound _ => 404
  | .badRequest _ => 400
  | .mediaServer _ => 500
  | .unavailable _ => 503
  | .internal .. => 500
  | .validation _ => 400

def code : ApiError → String
  | .notFound _ => "NOT_FOUND"
  | .badRequest _ => "BAD_REQUEST"
  | .mediaServer _ => "UPSTREAM_ERROR"
  | .unavailable _ => "SERVICE_UNAVAILABLE"
  | .internal .. => "INTERNAL_SERVER_ERROR"
  | .validation _ => "VALIDATION_ERROR"

def message : ApiError → String
  | .notFound m => m
  | .badRequest m => m
  | .mediaServer m => m
  | .unavailable m => m
  | .internal .. => "Internal server error"
  | .validation _ => "Validation failed"

def body (e : ApiError) : Json :=
  let details : List (String × Json) := match e with
    | .validation entries => [("details", .object [("errors", .array (entries.map .string))])]
    | _ => []
  .object ([("error", .string e.message), ("code", .string e.code)] ++ details)

def response (e : ApiError) : Response := Response.json e.status e.body

def indentLines (s : String) : String :=
  String.ofList (s.toList.flatMap fun c => if c = '\n' then "\n    ".toList else [c])

/-- The causes below the message; more than one are numbered. -/
def report (message : String) (causes : List String) : String :=
  match causes with
  | [] => message
  | [cause] => message ++ "\n\nCaused by:\n    " ++ indentLines cause
  | causes =>
    message ++ "\n\nCaused by:" ++ String.join (causes.mapIdx fun i c => s!"\n    {i}: " ++ c)

def events : ApiError → List LogEvent
  | .mediaServer m => [⟨.error, "Streaming backend failure", [("error", .string m)]⟩]
  | .internal m causes => [⟨.error, "Internal server error: " ++ report m causes, []⟩]
  | _ => []

def logged (e : ApiError) : List LogEvent → Program Response
  | [] => pure e.response
  | ev :: evs => .log ev (logged e evs)

def answer (e : ApiError) : Program Response := e.logged e.events

/-- A change of status that did not happen, for whatever reason. -/
def invalidTransition (expected : Status) : ApiError :=
  .badRequest ("Live session not found or not in " ++ expected.text ++ " state")

def storeCauses : StoreError → List String
  | .database m => [m]
  | _ => []

/-- A failure of the quiz store; a missing row is the client's mistake. -/
def ofStoreError : StoreError → ApiError
  | .rowNotFound => .notFound "Resource not found"
  | e => .internal e.text (storeCauses e)

def ofSessionError : SessionError → ApiError
  | .notFound _ => .notFound "Live session not found"
  | .invalidTransition _ expected => invalidTransition expected
  | .provisioning .. => .mediaServer "Failed to create stream on streaming backend"
  | .store e => .internal e.text (storeCauses e)

def ofPathError (e : PathError) : ApiError := .badRequest e.message

def ofStreamPath (path : String) : ApiError := .badRequest (StreamPath.invalidMessage path)

end ApiError

end LiveLesson.Http
