import LiveLesson.Media.Endpoint
import LiveLesson.Media.Uri
import LiveLesson.Service.Program
import LiveLesson.Text.Utf8

/-!
Asking the media server for a stream over HTTP. The order is a POST; redirections are followed, up
to ten of them, and those that do not keep the method go on with a GET. The last reply decides. Only
addresses of the web are asked; what an address says of a user goes into a header, not into the
target.
-/

namespace LiveLesson.Media

inductive Method where
  | get
  | post
  deriving DecidableEq, Repr

def Method.text : Method → String
  | .get => "GET"
  | .post => "POST"

structure Request where
  method : Method
  url : Url
  deriving DecidableEq, Repr

def Request.target (r : Request) : String :=
  r.url.pathText ++ (match r.url.query with | some q => "?" ++ q | none => "")

def Request.line (r : Request) : String := r.method.text ++ " " ++ r.target

def userAgent : String := "classlive-backend/1.0"

structure Reply where
  status : Nat
  headers : List (String × String)
  body : List UInt8
  deriving DecidableEq, Repr

namespace Reply

def isSuccess (r : Reply) : Bool := 200 ≤ r.status && r.status ≤ 299

def header? (r : Reply) (name : String) : Option String :=
  (r.headers.find? fun h => h.1.toList.map Char.toLower = name.toList).map (·.2)

/-- The method that a redirection goes on with; `none` if the reply is none. -/
def nextMethod? (r : Reply) (method : Method) : Option Method :=
  if r.status = 301 || r.status = 302 || r.status = 303 then some .get
  else if r.status = 307 || r.status = 308 then some method
  else none

/-- Where the reply to a request leads on to. Without a place that HTTP has an address for it is an
ordinary reply. -/
def next? (r : Reply) (request : Request) : Option Request := do
  let method ← r.nextMethod? request.method
  let place ← r.header? "location"
  let url ← (request.url.join place).toOption
  if Uri.isValid url.toText then some { method, url } else none

end Reply

/-- A server's reply to the n-th request, counted from zero; `none` if there is none. -/
abbrev Server := Nat → Request → Option Reply

structure Exchange where
  sent : List Request
  result : Except MediaError Reply

def redirectLimit : Nat := 10

/-- Whether a request for an address is sent at all. -/
def isSendable (url : Url) : Bool :=
  (url.scheme = "http" || url.scheme = "https") && Uri.isValid url.toText

def send (server : Server) (left count : Nat) (request : Request) : Exchange :=
  if !isSendable request.url then ⟨[], .error (.request "unfit address")⟩
  else
    match server count request with
    | none => ⟨[request], .error (.request "connection failed")⟩
    | some reply =>
      match reply.next? request, left with
      | none, _ => ⟨[request], .ok reply⟩
      | some _, 0 => ⟨[request], .error (.request "too many redirects")⟩
      | some next, left + 1 =>
        let rest := send server left (count + 1) next
        ⟨request :: rest.sent, rest.result⟩

def judge : Except MediaError Reply → Except MediaError Unit
  | .error e => .error e
  | .ok reply =>
    if reply.isSuccess then .ok ()
      else .error (.rejected reply.status (Text.Utf8.decodeLossy reply.body))

def provision (server : Server) (endpoint : Endpoint) (streamKey : String) :
    List Request × Except MediaError Unit :=
  match endpoint.provisionUrl streamKey with
  | .error e => ([], .error (.invalidUrl e))
  | .ok url =>
    let exchange := send server redirectLimit 0 ⟨.post, url⟩
    (exchange.sent, judge exchange.result)

end LiveLesson.Media
