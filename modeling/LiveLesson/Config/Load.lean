import LiveLesson.Config.Connection
import LiveLesson.Config.Dotenv
import LiveLesson.Config.Files
import LiveLesson.Config.KeyPath
import LiveLesson.Config.Reading

/-!
Loading the settings: the file, then the variables over it, then the checks. A database address in a
variable of its own is taken last, behind the checks.
-/

namespace LiveLesson.Config

open Text

inductive LoadError where
  | unreadable (path : String)
  | unfit (fault : Fault)
  | apiUrl (text : String) (cause : UrlError)
  | blankPlaybackHost
  | staleHours
  | connection (cause : ConnectionError)
  deriving DecidableEq, Repr

def LoadError.message : LoadError → String
  | .unreadable path => "Failed to read configuration from " ++ path
  | .unfit _ => "Invalid configuration"
  | .apiUrl text cause => "Invalid streaming.api_url " ++ text ++ ": " ++ cause.message
  | .blankPlaybackHost => "streaming.playback.host must not be empty"
  | .staleHours => "maintenance.stale_pending_hours must be positive"
  | .connection cause => cause.message

/-- What every loaded value has to satisfy, the first violation deciding. -/
def check (s : Settings) : Except LoadError Unit := do
  match Url.parse s.streaming.apiUrl with
  | .error e => throw (.apiUrl s.streaming.apiUrl e)
  | .ok _ => pure ()
  if isBlankText s.streaming.playback.host then throw .blankPlaybackHost
  if s.maintenance.stalePendingHours ≤ 0 then throw .staleHours
  match s.database.connectionUrl with
  | .error e => throw (.connection e)
  | .ok _ => pure ()

def fileEntries (disk : Disk) (path : String) : Except LoadError (List (String × Tree)) :=
  match disk.entries? path with
  | some entries => .ok entries
  | none => .error (.unreadable path)

def loadFrom (disk : Disk) (vars : Variables) (path : String) : Except LoadError Settings := do
  let entries ← fileEntries disk path
  let tree := ((Tree.table []).merge entries).merge (Environment.settings vars)
  let settings ← tree.readSettings.mapError .unfit
  check settings
  return settings

def withDotenv (disk : Disk) (vars : Variables) : Variables :=
  match disk.dotenv with
  | some text => Dotenv.load vars (dropMark text)
  | none => vars

def standardPath : String := "config"

def load (disk : Disk) (vars : Variables) : Except LoadError Settings := do
  let vars := withDotenv disk vars
  let path := (vars.lookup "CLASSLIVE_CONFIG").getD standardPath
  let settings ← loadFrom disk vars path
  match vars.lookup "DATABASE_URL" with
  | some url => return { settings with database.url := some url }
  | none => return settings

end LiveLesson.Config
