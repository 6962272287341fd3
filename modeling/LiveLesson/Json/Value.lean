import LiveLesson.Number.Shortest
import LiveLesson.Text.Hex

/-!
JSON values and their compact text. Integers and floating-point numbers are kept apart, an object is
the list of its members in order, and no rule on member names is built in.
-/

namespace LiveLesson

inductive Json where
  | null
  | bool (b : Bool)
  | integer (n : Int)
  | float (x : Binary64)
  | string (s : String)
  | array (items : List Json)
  | object (members : List (String × Json))
  deriving Repr, BEq, Inhabited

namespace Json

/-- The escape of a character inside a string: short where there is one, `\u00XX` for other
controls. -/
def escapeChar (c : Char) : List Char :=
  if c = '"' then ['\\', '"']
  else if c = '\\' then ['\\', '\\']
  else if 0x20 ≤ c.toNat then [c]
  else if c.toNat = 0x08 then ['\\', 'b']
  else if c.toNat = 0x0C then ['\\', 'f']
  else if c = '\n' then ['\\', 'n']
  else if c = '\r' then ['\\', 'r']
  else if c = '\t' then ['\\', 't']
  else '\\' :: 'u' :: (Text.Hex.ofNat 4 c.toNat).toList

def quoteOnto (acc : String) (s : String) : String :=
  s.foldl (fun out c => (escapeChar c).foldl String.push out) (acc.push '"') |>.push '"'

mutual

def textOnto (acc : String) : Json → String
  | .null => acc ++ "null"
  | .bool b => acc ++ (if b then "true" else "false")
  | .integer n => acc ++ toString n
  | .float x => acc ++ x.mixedText
  | .string s => quoteOnto acc s
  | .array items => (itemsOnto (acc.push '[') true items).push ']'
  | .object members => (membersOnto (acc.push '\x7b') true members).push '\x7d'

def itemsOnto (acc : String) (first : Bool) : List Json → String
  | [] => acc
  | j :: rest => itemsOnto (textOnto (if first then acc else acc.push ',') j) false rest

def membersOnto (acc : String) (first : Bool) : List (String × Json) → String
  | [] => acc
  | (k, j) :: rest =>
    let acc := quoteOnto (if first then acc else acc.push ',') k
    membersOnto (textOnto (acc.push ':') j) false rest

end

def text (j : Json) : String := textOnto "" j

def member? (name : String) : Json → Option Json
  | .object members => members.lookup name
  | _ => none

end Json

end LiveLesson
