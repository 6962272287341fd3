import LiveLesson.Http.Message
import LiveLesson.Text.Blank

/-!
The name under which a request is followed. A client may bring one, in `x-request-id` or, if that
header is absent, in `x-correlation-id`; one that is blank, too long or no plain text is replaced by
a fresh name.
-/

namespace LiveLesson.Http.RequestId

def headerName : String := "x-request-id"

def otherHeaderName : String := "x-correlation-id"

def maxLength : Nat := 128

/-- The name in a header value, if it is fit to be one. -/
def ofHeader (value : String) : Option String :=
  if !isHeaderText value then none
  else
    let name := Text.trim value
    if name.isEmpty || maxLength < name.length then none else some name

/-- The header that counts: the second one only if the first is absent. -/
def brought (r : Request) : Option String :=
  match r.header? headerName with
  | some value => some value
  | none => r.header? otherHeaderName

def choose (fresh : String) (r : Request) : String := ((brought r).bind ofHeader).getD fresh

end LiveLesson.Http.RequestId
