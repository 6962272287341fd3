import LiveLesson.Http.App
import LiveLesson.Service.Tables

/-!
Requests one after the other, answered out of the tables.
-/

namespace LiveLesson.Http

/-- A request and what it meets. -/
structure Visit where
  request : Request
  fresh : Fresh
  around : Call → Tables.Surroundings

namespace App

def visit (settings : Settings) (doc : Documentation) (v : Visit) (t : Tables) :
    Trace Response Tables :=
  (serve settings doc v.fresh v.request).run (Tables.handler v.around) t

def converse (settings : Settings) (doc : Documentation) (t : Tables) :
    List Visit → List Response × Tables
  | [] => ([], t)
  | v :: rest =>
    let trace := visit settings doc v t
    let (responses, t) := converse settings doc trace.state rest
    (trace.result :: responses, t)

end App

end LiveLesson.Http
