import LiveLesson.Json.Value
import LiveLesson.Text.Integer
import LiveLesson.Text.Lowercase

/-!
Settings as they are collected: a tree of named values, whatever format they come from. Names are
not case-sensitive. Putting a table into a tree merges the two; every other value replaces what it
meets.
-/

namespace LiveLesson.Config

inductive Tree where
  | nil
  | bool (b : Bool)
  | integer (n : Int)
  | float (x : Binary64)
  | text (s : String)
  | list (items : List Tree)
  | table (entries : List (String × Tree))
  deriving Repr, BEq, Inhabited

namespace Tree

def lowerName (name : String) : String := String.ofList (Text.lowerChars name.toList)

/-- Puts an entry in, in the place of an earlier one of its name. -/
def upsert (name : String) (value : Tree) : List (String × Tree) → List (String × Tree)
  | [] => [(name, value)]
  | (k, old) :: rest => if k = name then (k, value) :: rest else (k, old) :: upsert name value rest

def entries : Tree → List (String × Tree)
  | .table es => es
  | _ => []

def member? (t : Tree) (name : String) : Option Tree := t.entries.lookup (lowerName name)

def set (t : Tree) (name : String) (value : Tree) : Tree :=
  .table (upsert (lowerName name) value t.entries)

mutual

def put : Tree → String → Tree → Tree
  | t, name, .table incoming => t.set name (putAll ((t.member? name).getD (.table [])) incoming)
  | t, name, value => t.set name value

def putAll : Tree → List (String × Tree) → Tree
  | t, [] => t
  | t, (name, value) :: rest => putAll (t.put name value) rest

end

mutual

/-- A JSON value as settings. An integer of more than 64 bits with its sign is a floating-point
number. -/
def ofJson : Json → Tree
  | .null => .nil
  | .bool b => .bool b
  | .integer n => if n ≤ (Text.Range.signed 64).greatest then .integer n
    else .float (Binary64.ofNat n.toNat)
  | .float x => .float x
  | .string s => .text s
  | .array items => .list (listOfJson items)
  | .object members => .table (entriesOfJson members)

def listOfJson : List Json → List Tree
  | [] => []
  | j :: rest => ofJson j :: listOfJson rest

def entriesOfJson : List (String × Json) → List (String × Tree)
  | [] => []
  | (name, j) :: rest => (name, ofJson j) :: entriesOfJson rest

end

end Tree

end LiveLesson.Config
