/-!
Media types of request bodies. A body counts as JSON if its type is `application`, and its subtype
is `json` or ends in `+json`, in any ASCII case; parameters have to be well formed and are ignored.
-/

namespace LiveLesson.Http

def isTokenChar (c : Char) : Bool :=
  c.isAlphanum || "!#$%&'*+-.^_|~".toList.contains c || c.toNat == 0x60

namespace ContentType

def isQuotedChar (c : Char) : Bool := 0x1F < c.toNat && c.toNat != 0x7F

inductive ParameterState where
  | start
  | name
  | valueStart
  | value
  | quotedStart
  | quoted
  | afterQuoted

/-- Reads parameters of the form `name=value` or `name="value"` behind their semicolons. -/
def parametersFrom : ParameterState → List Char → Bool
  | .start, [] => true
  | .start, c :: cs =>
    if c = ' ' then parametersFrom .start cs
    else if isTokenChar c then parametersFrom .name cs
    else false
  | .name, [] => false
  | .name, c :: cs =>
    if c = '=' then parametersFrom .valueStart cs
    else if isTokenChar c then parametersFrom .name cs
    else false
  | .valueStart, [] => true
  | .valueStart, c :: cs =>
    if c = '"' then parametersFrom .quotedStart cs
    else if isTokenChar c then parametersFrom .value cs
    else false
  | .value, [] => true
  | .value, c :: cs =>
    if c = ';' then parametersFrom .start cs
    else if isTokenChar c then parametersFrom .value cs
    else false
  | .quotedStart, [] => false
  | .quotedStart, c :: cs => if c = '"' || isQuotedChar c then parametersFrom .quoted cs else false
  | .quoted, [] => false
  | .quoted, c :: cs =>
    if c = '"' then parametersFrom .afterQuoted cs
    else if isQuotedChar c then parametersFrom .quoted cs
    else false
  | .afterQuoted, [] => true
  | .afterQuoted, c :: cs =>
    if c = ';' then parametersFrom .start cs
    else if c = ' ' then parametersFrom .afterQuoted cs
    else false

/-- The part in front of the last plus sign that has something in front of it, and the part
behind. -/
def suffixSplit (subtype : List Char) : List Char × Option (List Char) :=
  match subtype with
  | [] => ([], none)
  | first :: rest =>
    let tail := rest.reverse.takeWhile (· != '+')
    if tail.length = rest.length then (subtype, none)
    else (first :: rest.take (rest.length - tail.length - 1), some tail.reverse)

def isJsonSubtype (subtype : List Char) : Bool :=
  let (name, suffix) := suffixSplit (subtype.map Char.toLower)
  name == "json".toList || suffix == some "json".toList

def isJson (value : String) : Bool :=
  let cs := value.toList
  let type := cs.takeWhile (· != '/')
  let after := cs.drop (type.length + 1)
  let subtype := after.takeWhile (· != ';')
  let parameters := after.drop subtype.length
  type.map Char.toLower == "application".toList && type.length < cs.length &&
    subtype.all isTokenChar && isJsonSubtype subtype &&
    match parameters with
    | [] => true
    | _ :: ps => parametersFrom .start ps

end ContentType

end LiveLesson.Http
