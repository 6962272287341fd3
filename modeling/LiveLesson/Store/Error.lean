import LiveLesson.Text.Quoted

/-!
What a store can answer instead of a result, with two texts for each: one for people and one that
names the case, which logs show.
-/

namespace LiveLesson

inductive StoreError where
  | rowNotFound
  | poolClosed
  | poolTimedOut
  | workerCrashed
  | protocol (text : String)
  | columnNotFound (name : String)
  | columnDecode (name : String)
  | database (message : String)
  | disconnected
  deriving DecidableEq, Repr

namespace StoreError

def text : StoreError → String
  | .rowNotFound => "no rows returned by a query that expected to return at least one row"
  | .poolClosed => "attempted to acquire a connection on a closed pool"
  | .poolTimedOut => "pool timed out while waiting for an open connection"
  | .workerCrashed => "attempted to communicate with a crashed background worker"
  | .protocol t => "encountered unexpected or invalid data: " ++ t
  | .columnNotFound name => "no column found for name: " ++ name
  | .columnDecode name => "error occurred while decoding column " ++ Text.quote name
  | .database message => "error returned from database: " ++ message
  | .disconnected => "error communicating with database"

def caseText : StoreError → String
  | .rowNotFound => "RowNotFound"
  | .poolClosed => "PoolClosed"
  | .poolTimedOut => "PoolTimedOut"
  | .workerCrashed => "WorkerCrashed"
  | .protocol t => "Protocol(" ++ Text.quote t ++ ")"
  | .columnNotFound name => "ColumnNotFound(" ++ Text.quote name ++ ")"
  | .columnDecode name => "ColumnDecode(" ++ Text.quote name ++ ")"
  | .database message => "Database(" ++ Text.quote message ++ ")"
  | .disconnected => "Io"

end StoreError

end LiveLesson
