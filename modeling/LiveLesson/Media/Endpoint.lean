import LiveLesson.Url.Form
import LiveLesson.Url.Join

/-!
Where the media server takes its orders. The path of the address in the settings is kept as a
folder, and the stream key is the one parameter of the order to add a stream.
-/

namespace LiveLesson.Media

/-- The address of the media server; its path ends with a slash. -/
structure Endpoint where
  base : Url
  deriving DecidableEq, Repr

structure EndpointError where
  address : String
  cause : UrlError
  deriving DecidableEq, Repr

def EndpointError.message (e : EndpointError) : String :=
  "Invalid streaming api url " ++ e.address ++ ": " ++ e.cause.message

def asFolder : Url.Path → Url.Path
  | .whole text => .whole (if text.endsWith "/" then text else text ++ "/")
  | .segments parts => .segments (if parts.getLast? = some "" then parts else parts ++ [""])

namespace Endpoint

def ofText (address : String) : Except EndpointError Endpoint :=
  match Url.parse address with
  | .ok url => .ok ⟨{ url with path := asFolder url.path }⟩
  | .error e => .error ⟨address, e⟩

def provisionPath : String := "api/stream/add"

def provisionUrl (endpoint : Endpoint) (streamKey : String) : Except UrlError Url := do
  let url ← endpoint.base.join provisionPath
  return { url with query := some (Url.Form.pair "stream" streamKey) }

end Endpoint

end LiveLesson.Media
