import LiveLesson.Text.Blank
import LiveLesson.Text.Split

/-!
Stream paths and stream keys. A path is an application and a key, each behind a slash, and perhaps
more parts; the key is what stands between its second slash and its third one. A fresh key has a
fixed head and 24 random letters or digits.
-/

namespace LiveLesson

namespace StreamPath

/-- The third part, unless it is missing or blank. It is not trimmed. -/
def key? (path : String) : Option String :=
  match (Text.split '/' path.toList)[2]? with
  | some key => if key.all Text.isBlank then none else some (String.ofList key)
  | none => none

def invalidMessage (path : String) : String := "invalid stream path: " ++ path

end StreamPath

namespace StreamKey

def head : String := "live_"

def randomLength : Nat := 24

def alphabet : List Char :=
  "ABCDEFGHIJKLMNOPQRSTUVWXYZabcdefghijklmnopqrstuvwxyz0123456789".toList

def ofRandom (part : List Char) : String := head ++ String.ofList part

/-- A text that can come out of key generation. -/
def IsFresh (key : String) : Prop :=
  ∃ part : List Char, part.length = randomLength ∧ (∀ c ∈ part, c ∈ alphabet) ∧ key = ofRandom part

/-- The key whose random part is a number in decimal digits, for keys counted instead of drawn. -/
def counted (n : Nat) : String :=
  let ds := Nat.toDigits 10 n
  ofRandom (List.replicate (randomLength - ds.length) '0' ++ ds)

end StreamKey

end LiveLesson
