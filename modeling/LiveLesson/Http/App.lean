import LiveLesson.Config.Settings
import LiveLesson.Http.Cors
import LiveLesson.Http.FailureLog
import LiveLesson.Http.Handlers
import LiveLesson.Http.RequestId

/-!
The service as a function from requests to programs that end with a response. From the outside in, a
request gets its name, the rules for other origins, the log of failures, and its endpoint.
-/

namespace LiveLesson.Http

/-- What is drawn anew for each request. -/
structure Fresh where
  streamKey : String
  requestId : String

abbrev Documentation := Json

namespace App

def atEndpoint (settings : Settings) (doc : Documentation) (key : String) (r : Request)
    (captures : Captures) : Endpoint → Program Response
  | .createSession => Handlers.createSession settings.streaming.playback key r
  | .getSession => Handlers.getSession settings.streaming.playback captures
  | .startSession => Handlers.startSession captures
  | .endSession => Handlers.endSession captures
  | .streamStatus => Handlers.streamStatus r
  | .createQuestion => Handlers.createQuestion r
  | .pushQuestion => Handlers.pushQuestion captures
  | .submitAnswer => Handlers.submitAnswer r
  | .questionResult => Handlers.questionResult captures
  | .health => Handlers.health
  | .document => pure (Response.json 200 doc)
  | .viewer => pure ⟨303, [("location", "/swagger-ui/")], ""⟩

def atRoute (settings : Settings) (doc : Documentation) (key : String) (r : Request) :
    Option (Endpoint × Captures) → Program Response
  | none => pure (Response.empty 404)
  | some (e, captures) =>
    if e.accepts r.method then atEndpoint settings doc key r captures e
    else pure (Response.empty 405)

/-- A refused method or a preflight request is told which methods the endpoint answers. -/
def withAllow (r : Request) (route : Option (Endpoint × Captures)) (response : Response) :
    Response :=
  match route with
  | some (e, _) =>
    if e.accepts r.method then response else response.setHeader "allow" e.allow
  | none => response

def withoutBody (r : Request) (response : Response) : Response :=
  if r.method == "HEAD" then { response with body := "" } else response

/-- The response behind the rules for other origins, which answer preflight requests themselves. -/
def inner (settings : Settings) (doc : Documentation) (key requestId : String) (r : Request) :
    Program Response :=
  let route := route? r.target
  if Cors.isPreflight r then pure (withAllow r route Cors.preflight)
  else do
    let response ← atRoute settings doc key r route
    let response ← FailureLog.pass requestId r response
    pure (withAllow r route (withoutBody r response))

def serveUnder (rule : Cors.AllowOrigin) (settings : Settings) (doc : Documentation) (fresh : Fresh)
    (r : Request) :
    Program Response := do
  let requestId := RequestId.choose fresh.requestId r
  let response ← inner settings doc fresh.streamKey requestId r
  let response := Cors.markUnder rule r response
  pure (response.setHeader RequestId.headerName requestId)

def serve (settings : Settings) (doc : Documentation) (fresh : Fresh) (r : Request) :
    Program Response :=
  serveUnder (Cors.allowOrigin settings.server.corsAllowOrigins) settings doc fresh r

/-- Builds the service; `none` if its rule for other origins is refused. -/
def build? (settings : Settings) (doc : Documentation) :
    Program (Option (Fresh → Request → Program Response)) := do
  let rule? ← Cors.rule? settings.server.corsAllowOrigins
  pure (rule?.map fun rule => serveUnder rule settings doc)

end App

end LiveLesson.Http
