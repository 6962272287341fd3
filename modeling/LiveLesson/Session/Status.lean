import LiveLesson.Text.Blank
import LiveLesson.Wire.Basic

/-!
The life of a session: it is created pending, goes live and ends. A transition names the one status
it leaves and the one it enters; a media server's event asks for a transition.
-/

namespace LiveLesson

inductive Status where
  | pending
  | live
  | ended
  deriving DecidableEq, Repr, Inhabited

namespace Status

def text : Status → String
  | .pending => "pending"
  | .live => "live"
  | .ended => "ended"

def named : List (String × Status) := [("pending", .pending), ("live", .live), ("ended", .ended)]

def ofText? (s : String) : Option Status := named.lookup s

def unknownMessage (s : String) : String := "unknown session status: " ++ s

def wire : Wire Status := Wire.oneOf named text

theorem ofText?_text (s : Status) : ofText? s.text = some s := by cases s <;> rfl

end Status

inductive Transition where
  | start
  | finish
  deriving DecidableEq, Repr

namespace Transition

def source : Transition → Status
  | .start => .pending
  | .finish => .live

def target : Transition → Status
  | .start => .live
  | .finish => .ended

theorem source_ne_target (t : Transition) : t.source ≠ t.target := by cases t <;> decide

end Transition

inductive StreamEvent where
  | start
  | stop
  deriving DecidableEq, Repr

namespace StreamEvent

/-- Event names are taken without the blanks around them and in any ASCII case; others are no
event. -/
def read? (s : String) : Option StreamEvent :=
  let name := (Text.trimChars s.toList).map Char.toLower
  if name = "start".toList then some .start
  else if name = "stop".toList then some .stop
  else none

def transition : StreamEvent → Transition
  | .start => .start
  | .stop => .finish

end StreamEvent

end LiveLesson
