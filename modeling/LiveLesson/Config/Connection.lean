import LiveLesson.Config.Settings
import LiveLesson.Text.Blank
import LiveLesson.Url.Parser

/-!
The address of the database. One that is given is used as it stands; else it is put together from
the parts. For logs the password is masked.
-/

namespace LiveLesson

open Text

inductive ConnectionError where
  | host (text : String) (cause : UrlError)
  | port (number : Nat)
  deriving DecidableEq, Repr

def ConnectionError.message : ConnectionError → String
  | .host text cause => "Invalid database host " ++ text ++ ": " ++ cause.message
  | .port number => "Invalid database port " ++ toString number

/-- A host that is given by itself. What follows a colon is left out, unless the host is in
brackets. -/
def Url.Host.ofText (text : String) : Except UrlError Url.Host :=
  let cs := text.toList
  if cs.head? = some '[' && cs.getLast? = some ']' then verbatim cs
  else
    match cutFirst ':' cs with
    | ([], some _) => .error .invalidDomainCharacter
    | (before, _) => verbatim before

namespace DatabaseSettings

def givenUrl (s : DatabaseSettings) : Option String := s.url.filter fun u => !isBlankText u

/-- The address made of the parts. A port needs a host. -/
def assembledUrl (s : DatabaseSettings) : Except ConnectionError Url := do
  let host ← (Url.Host.ofText s.host).mapError (.host s.host)
  if host = .absent then throw (.port s.port)
  return {
    scheme := "postgres"
    authority := some {
      user := Url.encoded Url.keptInUser s.user.toList
      password := if s.password = "" then none
        else some (Url.encoded Url.keptInUser s.password.toList)
      host, port := some s.port }
    path := .segments (Url.Path.read .other (s.name.toList.filter fun c => !Url.isSkipped c))
    query := none
    fragment := none }

def connectionUrl (s : DatabaseSettings) : Except ConnectionError String :=
  match s.givenUrl with
  | some url => .ok url
  | none => s.assembledUrl.map Url.toText

def redactedUrl (s : DatabaseSettings) : String :=
  match s.connectionUrl with
  | .error _ => "<invalid>"
  | .ok text =>
    match Url.parse text with
    | .ok url => (url.maskPassword "***").toText
    | .error _ => "<invalid>"

def poolSize (s : DatabaseSettings) : Nat := max s.maxConnections 1

end DatabaseSettings

end LiveLesson
