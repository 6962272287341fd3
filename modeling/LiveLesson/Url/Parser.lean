import LiveLesson.Url.Path

/-!
Reading addresses. The scheme decides how the rest is read; a fragment begins at the first hash, a
query at the first question mark before it, and of several at signs the last one ends the
credentials.
-/

namespace LiveLesson.Url

open Text

/-- Tabs and line ends are passed over wherever they stand. -/
def isSkipped (c : Char) : Bool := c = '\t' || c = '\n' || c = '\r'

def isControlOrSpace (c : Char) : Bool := c.toNat ≤ 0x20

def clean (s : String) : List Char :=
  (dropEndWhile isControlOrSpace (s.toList.dropWhile isControlOrSpace)).filter fun c => !isSkipped c

def isSchemeChar (c : Char) : Bool := c.isAlphanum || c = '+' || c = '-' || c = '.'

def scheme? (cs : List Char) : Option (String × List Char) :=
  match cs.takeWhile isSchemeChar, cs.dropWhile isSchemeChar with
  | first :: more, ':' :: rest =>
    if first.isAlpha then some (String.ofList ((first :: more).map Char.toLower), rest) else none
  | _, _ => none

/-- What stands before the colon of a port and behind it; a colon in brackets is none. -/
def cutPort : Bool → List Char → List Char × Option (List Char)
  | _, [] => ([], none)
  | isInside, c :: cs =>
    if c = ':' && !isInside then ([], some cs)
    else
      let (host, port) := cutPort (c = '[' || (isInside && c != ']')) cs
      (c :: host, port)

def decimal (cs : List Char) : Nat := cs.foldl (fun acc c => acc * 10 + (c.toNat - '0'.toNat)) 0

/-- A port, which is not kept when it is the scheme's own, and what follows a backslash. -/
def readPort (kind : SchemeKind) (cs : List Char) : Except UrlError (Option Nat × List Char) :=
  let digits := cs.takeWhile Char.isDigit
  let more := cs.dropWhile Char.isDigit
  if more.head?.any (· != '\\') || 65535 < decimal digits then .error .invalidPort
  else if digits.isEmpty || kind = .web (decimal digits) then .ok (none, more)
  else .ok (some (decimal digits), more)

def readCredentials (cs : List Char) : String × Option String :=
  match cutFirst ':' cs with
  | (user, some (c :: password)) =>
    (encoded keptInUser user, some (encoded keptInUser (c :: password)))
  | (user, _) => (encoded keptInUser user, none)

/-- Reads an authority, and what of it belongs to the path. Whoever is named needs a host. -/
def readAuthority (kind : SchemeKind) (isEnd : Bool) (cs : List Char) :
    Except UrlError (Authority × List Char) := do
  let (named, place) := cutLast '@' cs
  if named = some [] && place.isEmpty && !isEnd then throw .emptyHost
  let (user, password) := readCredentials (named.getD [])
  let (hostText, portText) := cutPort false place
  if hostText.isEmpty && !kind.isOther then throw .emptyHost
  let host ← if kind.isOther then Host.verbatim hostText else Host.domain hostText
  if host = .absent && portText.isSome then throw .emptyHost
  let (port, more) ← match portText with
    | some digits => readPort kind digits
    | none => pure (none, [])
  if host = .absent && (user != "" || password.isSome) then throw .emptyHost
  return (⟨user, password, host, port⟩, more)

def readPlace (kind : SchemeKind) (isEnd : Bool) (cs : List Char) :
    Except UrlError (Option Authority × Path) := do
  let place := cs.takeWhile fun c => !kind.isSlash c
  let path := cs.dropWhile fun c => !kind.isSlash c
  let (authority, more) ← readAuthority kind (isEnd && path.isEmpty) place
  return (some authority, .segments (Path.read kind (more ++ path)))

/-- The authority of a file on a host; the local one is not named. -/
def fileAuthority (host : Host) : Authority :=
  ⟨"", none, if host = .name "localhost" then .absent else host, none⟩

/-- Reads the place of a file. A drive is on no other host. -/
def readFile (cs : List Char) : Except UrlError (Option Authority × Path) :=
  match cs with
  | a :: b :: rest =>
    if SchemeKind.file.isSlash a && SchemeKind.file.isSlash b then do
      let place := rest.takeWhile fun c => !SchemeKind.file.isSlash c
      if (Path.drive? place).isSome then
        return (some (fileAuthority .absent), .segments (Path.read .file rest))
      let host ← if place.isEmpty then pure .absent else Host.domain place
      let path := Path.read .file (rest.dropWhile fun c => !SchemeKind.file.isSlash c)
      let isOnDrive := (path.head?.bind (Path.drive? ·.toList)).isSome
      return (some (fileAuthority (if isOnDrive then .absent else host)), .segments path)
    else .ok (some (fileAuthority .absent), .segments (Path.read .file cs))
  | _ => .ok (some (fileAuthority .absent), .segments (Path.read .file cs))

def readHier (kind : SchemeKind) (isEnd : Bool) (cs : List Char) :
    Except UrlError (Option Authority × Path) :=
  match kind, cs with
  | .file, _ => readFile cs
  | .web _, _ => readPlace kind isEnd (cs.dropWhile kind.isSlash)
  | .other, '/' :: '/' :: rest => readPlace kind isEnd rest
  | .other, '/' :: rest => .ok (none, .segments (Path.follow kind [] rest))
  | .other, _ => .ok (none, .whole (encoded Host.isPlain cs))

def cutTail (cs : List Char) : List Char × Option (List Char) × Option (List Char) :=
  let (front, fragment) := cutFirst '#' cs
  let (hier, query) := cutFirst '?' front
  (hier, query, fragment)

def ofScheme (scheme : String) (rest : List Char) : Except UrlError Url := do
  let kind := SchemeKind.of scheme
  let (hier, query, fragment) := cutTail rest
  let (authority, path) ← readHier kind (query.isNone && fragment.isNone) hier
  return {
    scheme, authority, path
    query := query.map (encoded (keptInQuery kind))
    fragment := fragment.map (encoded keptInFragment) }

def parse (s : String) : Except UrlError Url :=
  match scheme? (clean s) with
  | some (scheme, rest) => ofScheme scheme rest
  | none => .error .relativeWithoutBase

end LiveLesson.Url
