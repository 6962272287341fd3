import LiveLesson.Config.Settings
import LiveLesson.Config.Tree
import LiveLesson.Text.Integer

/-!
Settings read from a tree. What is missing keeps its standard value, and kinds of values are not
told apart more than needed: a number or a truth value may stand for a text, a text or a truth value
for a number, a list for a table with the entries in their order. A fault names the place of the
value that cannot be read.
-/

namespace LiveLesson.Config

open Text

/-- Where a value was refused; nowhere if its kind was wrong for a table or a list. -/
structure Fault where
  place : Option String
  deriving DecidableEq, Repr

namespace Fault

def nowhere : Fault := ⟨none⟩

def here : Fault := ⟨some ""⟩

def inItem (index : Nat) (f : Fault) : Fault :=
  ⟨f.place.map fun p => "[" ++ toString index ++ "]" ++ p⟩

def inEntry (name : String) (f : Fault) : Fault :=
  ⟨f.place.map fun p => if p.isEmpty || p.startsWith "[" then name ++ p else name ++ "." ++ p⟩

end Fault

namespace Tree

def readText : Tree → Except Fault String
  | .text s => .ok s
  | .bool b => .ok (if b then "true" else "false")
  | .integer n => .ok (toString n)
  | .float x => .ok x.plainText
  | _ => .error .here

/-- The number that a text stands for: the words for yes and no, or digits. -/
def numberOfText (r : Range) (s : String) : Option Int :=
  let lower := String.ofList (lowerChars s.toList)
  if lower = "true" || lower = "on" || lower = "yes" then some 1
  else if lower = "false" || lower = "off" || lower = "no" then some 0
  else (readInteger r s).toOption

/-- An integer of a kind of number `wide`, which has to lie in the range asked for. Fractions are
rounded, and what is too large or too small for the kind becomes its bound. -/
def readNumber (wide r : Range) (t : Tree) : Except Fault Int :=
  let found : Option Int :=
    match t with
    | .integer n => if wide.least ≤ n then some n else none
    | .bool b => some (if b then 1 else 0)
    | .float x => some (x.toIntWithin wide.least wide.greatest)
    | .text s => numberOfText wide s
    | _ => none
  match found with
  | some n => if r.Contains n then .ok n else .error .here
  | none => .error .here

def readInt64 : Tree → Except Fault Int := readNumber (.signed 64) (.signed 64)

def readNatural (bits : Nat) (t : Tree) : Except Fault Nat :=
  (readNumber (.unsigned 64) (.unsigned bits) t).map Int.toNat

def readItems {α : Type} (read : Tree → Except Fault α) : Nat → List Tree → Except Fault (List α)
  | _, [] => .ok []
  | index, t :: rest => do
    let a ← (read t).mapError (.inItem index)
    return a :: (← readItems read (index + 1) rest)

def readList {α : Type} (read : Tree → Except Fault α) : Tree → Except Fault (List α)
  | .list items => readItems read 0 items
  | _ => .error .nowhere

def readOptional {α : Type} (read : Tree → Except Fault α) : Tree → Except Fault (Option α)
  | .nil => .ok none
  | t => (read t).map some

end Tree

/-- A place for one entry of a table. -/
structure Slot (α : Type) where
  name : String
  fill : Tree → α → Except Fault α

namespace Slot

def of {α β : Type} (name : String) (read : Tree → Except Fault β) (set : α → β → α) : Slot α :=
  ⟨name, fun t a => (read t).map (set a)⟩

variable {α : Type}

def fillEntries (slots : List (Slot α)) : List (String × Tree) → α → Except Fault α
  | [], a => .ok a
  | (name, t) :: rest, a =>
    match slots.find? (·.name = name) with
    | some slot => do fillEntries slots rest (← (slot.fill t a).mapError (.inEntry name))
    | none => fillEntries slots rest a

def fillItems : Nat → List (Slot α) → List Tree → α → Except Fault α
  | index, slot :: slots, t :: rest, a => do
    fillItems (index + 1) slots rest (← (slot.fill t a).mapError (.inItem index))
  | _, _, _, a => .ok a

/-- Reads a table or a list into slots that hold their standard values. -/
def readTable (slots : List (Slot α)) (standard : α) : Tree → Except Fault α
  | .table entries => fillEntries slots entries standard
  | .list items => fillItems 0 slots items standard
  | _ => .error .nowhere

end Slot

namespace Tree

def readServer : Tree → Except Fault ServerSettings :=
  Slot.readTable [
    .of "host" readText fun s x => { s with host := x },
    .of "port" (readNatural 16) fun s x => { s with port := x },
    .of "cors_allow_origins" (readList readText) fun s x => { s with corsAllowOrigins := x }]
    .standard

def readDatabase : Tree → Except Fault DatabaseSettings :=
  Slot.readTable [
    .of "url" (readOptional readText) fun s x => { s with url := x },
    .of "user" readText fun s x => { s with user := x },
    .of "password" readText fun s x => { s with password := x },
    .of "host" readText fun s x => { s with host := x },
    .of "port" (readNatural 16) fun s x => { s with port := x },
    .of "name" readText fun s x => { s with name := x },
    .of "max_connections" (readNatural 32) fun s x => { s with maxConnections := x },
    .of "acquire_timeout_secs" (readNatural 64) fun s x => { s with acquireTimeoutSecs := x }]
    .standard

def readPlayback : Tree → Except Fault PlaybackSettings :=
  Slot.readTable [
    .of "host" readText fun s x => { s with host := x },
    .of "app" readText fun s x => { s with app := x },
    .of "rtmp_port" (readNatural 16) fun s x => { s with rtmpPort := x },
    .of "flv_port" (readNatural 16) fun s x => { s with flvPort := x },
    .of "hls_port" (readNatural 16) fun s x => { s with hlsPort := x }]
    .standard

def readStreaming : Tree → Except Fault StreamingSettings :=
  Slot.readTable [
    .of "api_url" readText fun s x => { s with apiUrl := x },
    .of "request_timeout_secs" (readNatural 64) fun s x => { s with requestTimeoutSecs := x },
    .of "playback" readPlayback fun s x => { s with playback := x }]
    .standard

def readMaintenance : Tree → Except Fault MaintenanceSettings :=
  Slot.readTable [.of "stale_pending_hours" readInt64 fun s x => { s with stalePendingHours := x }]
    .standard

def readSettings : Tree → Except Fault Settings :=
  Slot.readTable [
    .of "server" readServer fun s x => { s with server := x },
    .of "database" readDatabase fun s x => { s with database := x },
    .of "streaming" readStreaming fun s x => { s with streaming := x },
    .of "maintenance" readMaintenance fun s x => { s with maintenance := x }]
    .standard

end Tree

end LiveLesson.Config
