import LiveLesson.Http.Message
import LiveLesson.Service.Program

/-!
Which pages of other origins may read responses. A star among the configured origins admits
everyone; otherwise a request's origin is admitted if it is one of the configured ones. Configured
texts that cannot stand in a header are told to the log and admit nobody.
-/

namespace LiveLesson.Http.Cors

def headerName : String := "access-control-allow-origin"

def methods : String := "GET,POST,OPTIONS"

def maxAge : String := "86400"

def vary : String := "origin, access-control-request-method, access-control-request-headers"

inductive AllowOrigin where
  | any
  | list (origins : List (List UInt8))
  deriving DecidableEq, Repr

namespace AllowOrigin

/-- A list that holds the star is refused: everyone is admitted without a list. -/
def ofList? (origins : List (List UInt8)) : Option AllowOrigin :=
  if origins.contains (Text.Utf8.encode "*") then none else some (.list origins)

def admits : AllowOrigin → List UInt8 → Bool
  | any, _ => true
  | list origins, origin => origins.contains origin

def value? : AllowOrigin → Option String → Option String
  | any, _ => some "*"
  | list origins, origin => origin.filter fun o => (list origins).admits (Text.Utf8.encode o)

end AllowOrigin

def ignored (origin : String) : LogEvent :=
  ⟨.warn, "Ignoring invalid CORS origin", [("origin", .string origin)]⟩

def headerValues : List String → Program (List (List UInt8))
  | [] => pure []
  | origin :: rest =>
    match headerValue? origin with
    | some value => do
      let values ← headerValues rest
      pure (value :: values)
    | none => do
      Program.emit (ignored origin)
      headerValues rest

/-- Makes a rule of the configured origins; `none` if it is refused. -/
def rule? (configured : List String) : Program (Option AllowOrigin) :=
  if configured.contains "*" then pure (some .any)
  else do
    let values ← headerValues configured
    pure (AllowOrigin.ofList? values)

def allowOrigin (configured : List String) : AllowOrigin :=
  if configured.contains "*" then .any else .list (configured.filterMap headerValue?)

def isPreflight (r : Request) : Bool := r.method == "OPTIONS"

/-- The answer to a preflight request, before the headers that every response has. -/
def preflight : Response :=
  ⟨200, [("access-control-allow-headers", "*"), ("access-control-allow-methods", methods),
    ("access-control-max-age", maxAge)], ""⟩

def markUnder (rule : AllowOrigin) (r : Request) (response : Response) : Response :=
  let response := response.setHeader "vary" vary
  match rule.value? (r.header? "origin") with
  | some o => response.setHeader headerName o
  | none => response

def mark (configured : List String) (r : Request) (response : Response) : Response :=
  markUnder (allowOrigin configured) r response

end LiveLesson.Http.Cors
