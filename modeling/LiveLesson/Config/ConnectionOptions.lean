import LiveLesson.Config.Connection
import LiveLesson.Text.Integer
import LiveLesson.Text.Percent
import LiveLesson.Text.Quoted
import LiveLesson.Url.Form

/-!
What a connection to the database reads off its address: the parts in decoded form, which parameters
of the query may replace. Parameters without a meaning for the connection are passed over.
-/

namespace LiveLesson

open Text

structure ConnectionOptions where
  host : Option String
  port : Option Nat
  user : Option String
  password : Option String
  database : Option String
  sslMode : Option String
  deriving DecidableEq, Repr

inductive OptionsError where
  | url (cause : UrlError)
  | encoding (cause : Utf8.Fault)
  | number (cause : IntegerError)
  | sslMode (value : String)
  | address
  deriving DecidableEq, Repr

def OptionsError.cause : OptionsError → String
  | .url e => e.message
  | .encoding e => e.message
  | .number e => e.message
  | .sslMode value => "error with configuration: unknown value " ++ quote value ++ " for `ssl_mode`"
  | .address => "invalid IP address syntax"

def OptionsError.message (e : OptionsError) : String := "error with configuration: " ++ e.cause

namespace ConnectionOptions

def decodePart (s : String) : Except OptionsError String :=
  let bytes := Percent.decode (Utf8.encode s)
  match Utf8.decode? bytes with
  | some text => .ok text
  | none => .error (.encoding ((Utf8.fault? 0 0 bytes).getD ⟨0, none⟩))

def sslModes : List String := ["disable", "allow", "prefer", "require", "verify-ca", "verify-full"]

def readNumber (r : Range) (s : String) : Except OptionsError Nat :=
  match readInteger r s with
  | .ok n => .ok n.toNat
  | .error e => .error (.number e)

def isAddress (s : String) : Bool :=
  (match (split '.' s.toList).map Url.Ipv6.byte? with
    | [some _, some _, some _, some _] => true
    | _ => false) ||
  (Url.Ipv6.parse? s.toList).isSome

def apply (o : ConnectionOptions) (parameter : String × String) :
    Except OptionsError ConnectionOptions := do
  let value := parameter.2
  match parameter.1 with
  | "sslmode" | "ssl-mode" =>
    let mode := String.ofList (value.toList.map Char.toLower)
    if sslModes.contains mode then return { o with sslMode := some mode }
      else throw (.sslMode value)
  | "statement-cache-capacity" =>
    let _ ← readNumber (.unsigned 64) value
    return o
  | "host" => return { o with host := some value }
  | "hostaddr" => if isAddress value then return { o with host := some value } else throw .address
  | "port" => return { o with port := some (← readNumber (.unsigned 16) value) }
  | "dbname" => return { o with database := some value }
  | "user" => return { o with user := some value }
  | "password" => return { o with password := some value }
  | _ => return o

def ofUrl (url : Url) : Except OptionsError ConnectionOptions := do
  let named := url.authority.filter fun a => a.host != .absent
  let host ← named.mapM fun a => decodePart a.host.toText
  let user ← (url.authority.filter fun a => a.user != "").mapM fun a => decodePart a.user
  let password ← (url.authority.bind (·.password)).mapM decodePart
  let path := url.path.toText.toList.dropWhile (· = '/')
  let start : ConnectionOptions := {
    host, user, password, port := url.authority.bind (·.port), sslMode := none
    database := if path.isEmpty then none else some (String.ofList path) }
  (Url.Form.pairs (url.query.getD "")).foldlM apply start

def read (address : String) : Except OptionsError ConnectionOptions :=
  match Url.parse address with
  | .ok url => ofUrl url
  | .error e => .error (.url e)

end ConnectionOptions

end LiveLesson
