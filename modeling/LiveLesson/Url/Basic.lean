import LiveLesson.Text.Percent
import LiveLesson.Url.Host

/-!
Addresses in parts, and their text. Which characters a part keeps unencoded depends on the part; a
percent sign is kept everywhere, so that what is encoded already stays as it is.
-/

namespace LiveLesson

structure Url.Authority where
  user : String
  password : Option String
  host : Url.Host
  port : Option Nat
  deriving DecidableEq, Repr

inductive Url.Path where
  /-- Text that is not divided; nothing can be found relative to it. -/
  | whole (text : String)
  /-- What stands behind each slash. -/
  | segments (parts : List String)
  deriving DecidableEq, Repr

/-- An address. Its texts are in encoded form. -/
structure Url where
  scheme : String
  authority : Option Url.Authority
  path : Url.Path
  query : Option String
  fragment : Option String
  deriving DecidableEq, Repr

namespace Url

inductive SchemeKind where
  | file
  | web (defaultPort : Nat)
  | other
  deriving DecidableEq, Repr

namespace SchemeKind

def of : String → SchemeKind
  | "file" => .file
  | "http" => .web 80
  | "https" => .web 443
  | "ws" => .web 80
  | "wss" => .web 443
  | "ftp" => .web 21
  | _ => .other

def isOther : SchemeKind → Bool
  | .other => true
  | _ => false

/-- Backslashes count as slashes unless the scheme has no rules of its own. -/
def isSlash (kind : SchemeKind) (c : Char) : Bool := c = '/' || (c = '\\' && !kind.isOther)

end SchemeKind

def keptInFragment (c : Char) : Bool := Host.isPlain c && !" \"<>`".toList.contains c

def keptInPath (c : Char) : Bool := keptInFragment c && !"#?\x7b\x7d".toList.contains c

def keptInUser (c : Char) : Bool := keptInPath c && !"/:;=@[\\]^|".toList.contains c

def keptInQuery (kind : SchemeKind) (c : Char) : Bool :=
  Host.isPlain c && !" \"#<>".toList.contains c && (kind.isOther || c != '\'')

def encoded (kept : Char → Bool) (cs : List Char) : String :=
  String.ofList (Text.Percent.encode kept cs)

namespace Authority

def credentials (a : Authority) : String :=
  match a.password with
  | some password => a.user ++ ":" ++ password ++ "@"
  | none => if a.user = "" then "" else a.user ++ "@"

def toText (a : Authority) : String :=
  a.credentials ++ a.host.toText ++
    (match a.port with | some port => ":" ++ toString port | none => "")

end Authority

namespace Path

def toText : Path → String
  | .whole text => text
  | .segments parts => String.join (parts.map ("/" ++ ·))

end Path

/-- Two slashes at the front of a path would be read as an authority, so a dot is put before
them. -/
def pathText (url : Url) : String :=
  match url.authority, url.path with
  | none, .segments ("" :: s :: rest) => "/." ++ (Path.segments ("" :: s :: rest)).toText
  | _, path => path.toText

def toText (url : Url) : String :=
  url.scheme ++ ":" ++ (match url.authority with | some a => "//" ++ a.toText | none => "") ++
    url.pathText ++ (match url.query with | some q => "?" ++ q | none => "") ++
    (match url.fragment with | some f => "#" ++ f | none => "")

def hasPassword (url : Url) : Bool := url.authority.any fun a => a.password.isSome

/-- The same address with another password; it takes a host to name anyone on. -/
def withPassword? (password : String) (url : Url) : Option Url :=
  match url.authority with
  | some a =>
    if a.host = .absent || SchemeKind.of url.scheme = .file then none
    else some { url with authority := some { a with password := some password } }
  | none => none

def maskPassword (mask : String) (url : Url) : Url :=
  if url.hasPassword then (url.withPassword? mask).getD url else url

end Url

end LiveLesson
