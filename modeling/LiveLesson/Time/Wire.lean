import LiveLesson.Time.Rfc3339
import LiveLesson.Wire.Basic

/-! Moments as JSON strings. -/

namespace LiveLesson.Timestamp

def wire : Wire Timestamp :=
  (Wire.stringAs "an RFC 3339 formatted date and time string").convert
    (fun s => (read s).mapError TextError.message) text

end LiveLesson.Timestamp
