import LiveLesson.Wire.Record

/-! A plain acknowledgement. -/

namespace LiveLesson

structure Message where
  message : String
  deriving DecidableEq, Repr, Inhabited

def Message.record : Record Message where
  title := "MessageResponse"
  blank := default
  fields := [Field.of "message" Wire.string message fun m x => { m with message := x }]

end LiveLesson
