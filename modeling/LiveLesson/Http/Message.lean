import LiveLesson.Json.Value
import LiveLesson.Text.Utf8

/-!
HTTP requests and responses. Header names are in lower case; a name may stand several times in a
request, and the first value counts. Bodies of responses are text, as all of them are JSON or empty.
-/

namespace LiveLesson.Http

abbrev Headers := List (String × String)

structure Request where
  method : String
  target : String
  headers : Headers
  body : List UInt8

def Request.header? (r : Request) (name : String) : Option String := r.headers.lookup name

structure Response where
  status : Nat
  headers : Headers
  body : String
  deriving DecidableEq, Repr

namespace Response

def setHeader (r : Response) (name value : String) : Response :=
  { r with headers := r.headers.filter (fun h => h.1 != name) ++ [(name, value)] }

def empty (status : Nat) : Response := ⟨status, [], ""⟩

def json (status : Nat) (j : Json) : Response :=
  ⟨status, [("content-type", "application/json")], j.text⟩

def isFailure (r : Response) : Bool := 400 ≤ r.status && r.status < 600

end Response

def isHeaderChar (c : Char) : Bool := c == '\t' || (0x20 ≤ c.toNat && c.toNat < 0x7F)

def isHeaderText (s : String) : Bool := s.toList.all isHeaderChar

/-- Bytes that a header value may hold: no control characters but tabs. What is beyond ASCII goes
out as it is. -/
def isHeaderByte (b : UInt8) : Bool := b == 0x09 || (0x20 ≤ b && b != 0x7F)

def headerValue? (s : String) : Option (List UInt8) :=
  let bytes := Text.Utf8.encode s
  if bytes.all isHeaderByte then some bytes else none

end LiveLesson.Http
