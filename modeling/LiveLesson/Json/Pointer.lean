import LiveLesson.Json.Value
import LiveLesson.Text.Integer
import LiveLesson.Text.Split

/-!
Pointers into JSON values (RFC 6901): names and indices behind slashes, a slash in a name written as
`~1` and a tilde as `~0`.
-/

namespace LiveLesson.Json

open Text

def unescapePointer : List Char → List Char
  | '~' :: '1' :: rest => '/' :: unescapePointer rest
  | '~' :: '0' :: rest => '~' :: unescapePointer rest
  | c :: rest => c :: unescapePointer rest
  | [] => []

/-- An index without a sign and without leading zeros. -/
def index? (cs : List Char) : Option Nat :=
  match cs with
  | '+' :: _ => none
  | '0' :: _ :: _ => none
  | cs => ((readIntegerChars (.unsigned 64) cs).toOption).map Int.toNat

def follow? (j : Json) (token : List Char) : Option Json :=
  match j with
  | .object _ => j.member? (String.ofList token)
  | .array items => (index? token).bind fun i => items[i]?
  | _ => none

def pointer? (j : Json) (pointer : String) : Option Json :=
  match pointer.toList with
  | [] => some j
  | '/' :: rest => (split '/' rest).foldlM (fun j token => j.follow? (unescapePointer token)) j
  | _ => none

end LiveLesson.Json
