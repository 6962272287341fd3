import LiveLesson.Text.Percent
import LiveLesson.Text.Split

/-!
Form encoding of query parameters: letters, digits and four marks stay, a space becomes a plus sign,
and every other byte is percent-encoded. So neither an ampersand nor an equals sign is left in a
value.
-/

namespace LiveLesson.Url.Form

open Text

def isKept (c : Char) : Bool := c.isAlphanum || c = '*' || c = '-' || c = '.' || c = '_'

def encodeChar (c : Char) : List Char := if c = ' ' then ['+'] else Percent.encodeChar isKept c

def encode (s : String) : String := String.ofList (s.toList.flatMap encodeChar)

def pair (key value : String) : String := encode key ++ "=" ++ encode value

def decodeBytes (cs : List Char) : List UInt8 :=
  Percent.decode (Utf8.encode (String.ofList (cs.map fun c => if c = '+' then ' ' else c)))

def decode (cs : List Char) : String := Utf8.decodeLossy (decodeBytes cs)

/-- The parameters of a query; a part without an equals sign has an empty value, an empty part is
none. -/
def pairs (query : String) : List (String × String) :=
  ((split '&' query.toList).filter (!·.isEmpty)).map fun part =>
    let (key, value) := cutFirst '=' part
    (decode key, decode (value.getD []))

end LiveLesson.Url.Form
