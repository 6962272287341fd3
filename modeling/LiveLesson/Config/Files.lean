import LiveLesson.Config.Tree
import LiveLesson.Json.Document
import LiveLesson.Text.Split
import LiveLesson.Text.Utf8
import LiveLesson.Toml.Document

/-!
What settings are loaded from besides the variables: the entries of the file that a path means, and
a file of variables. Any way to look for a file and to read it will do. Here are files of TOML and
JSON in the working directory: a file is looked for under the very name, then under the name with
the ending of a format, and the ending tells the format. A file with another ending is as good as
none.
-/

namespace LiveLesson.Config

open Text

/-- Files as loading sees them. Entries may come in any order; a missing file has none, and there
are none at all for a file that cannot be read. -/
structure Disk where
  entries? : String → Option (List (String × Tree))
  dotenv : Option String

abbrev Files := List (String × String)

inductive Format where
  | toml
  | json
  deriving DecidableEq, Repr

namespace Format

def ending : Format → String
  | .toml => "toml"
  | .json => "json"

def all : List Format := [.toml, .json]

/-- The entries that a text of the format spells. Outermost there has to be a table. -/
def entries? (format : Format) (text : String) : Option (List (String × Tree)) :=
  match format with
  | .toml => Toml.parse? text
  | .json =>
    match Json.parse 127 (Utf8.encode text) with
    | .ok (.object members) => some (Tree.entriesOfJson members)
    | _ => none

end Format

namespace Files

def parts (path : String) : List String :=
  ((split '/' path.toList).map String.ofList).filter fun p => p != "" && p != "."

def at? (files : Files) (parts : List String) : Option String :=
  (files.find? fun (name, _) => Files.parts name = parts && !parts.isEmpty).map (·.2)

/-- What stands behind the last full stop of a name that does not begin with it. -/
def ending (name : String) : String :=
  match cutLast '.' name.toList with
  | (some (_ :: _), rest) => String.ofList rest
  | _ => ""

def namesFile (path : String) : Bool :=
  !path.startsWith "/" && !path.endsWith "/" && !path.endsWith "/." && path != "."

/-- The file under the name with the ending of a format, the formats being tried in a fixed
order. -/
def withEnding? (files : Files) (path : String) : Option (Format × String) :=
  let ps := parts path
  match ps.getLast? with
  | some last =>
    if path.startsWith "/" then none
    else Format.all.findSome? fun format =>
      (files.at? (ps.dropLast ++ [last ++ "." ++ format.ending])).map (format, ·)
  | none => none

def find? (files : Files) (path : String) : Option (Format × String) :=
  let ps := parts path
  match (if namesFile path then files.at? ps else none) with
  | some text =>
    (Format.all.find? fun format => format.ending = ending (ps.getLastD "")).map (·, text)
  | none => files.withEnding? path

end Files

def dropMark (s : String) : String :=
  match s.toList with
  | '\uFEFF' :: rest => String.ofList rest
  | _ => s

def Files.disk (files : Files) : Disk where
  entries? path :=
    match files.find? path with
    | none => some []
    | some (format, text) => format.entries? (dropMark text)
  dotenv := files.at? [".env"]

end LiveLesson.Config
