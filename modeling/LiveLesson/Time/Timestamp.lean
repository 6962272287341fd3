import LiveLesson.Time.Calendar

/-!
Moments in UTC to the nanosecond. A leap second is kept as the second before it with a fraction of
one second or more, so `nanos` may reach two thousand million less one.
-/

namespace LiveLesson

/-- Whole seconds since 1970-01-01T00:00:00Z and the nanoseconds past them. -/
structure Timestamp where
  seconds : Int
  nanos : Nat
  deriving DecidableEq, Repr, Inhabited

namespace Timestamp

def le (a b : Timestamp) : Bool :=
  a.seconds < b.seconds || (a.seconds == b.seconds && a.nanos ≤ b.nanos)

instance : LE Timestamp := ⟨fun a b => a.le b = true⟩

instance (a b : Timestamp) : Decidable (a ≤ b) := inferInstanceAs (Decidable (a.le b = true))

def lt (a b : Timestamp) : Bool := !(b.le a)

instance : LT Timestamp := ⟨fun a b => a.lt b = true⟩

instance (a b : Timestamp) : Decidable (a < b) := inferInstanceAs (Decidable (a.lt b = true))

theorem le_iff {a b : Timestamp} :
    a ≤ b ↔ a.seconds < b.seconds ∨ (a.seconds = b.seconds ∧ a.nanos ≤ b.nanos) := by
  show a.le b = true ↔ _
  simp [le]

theorem le_refl (a : Timestamp) : a ≤ a := le_iff.2 (Or.inr ⟨rfl, Nat.le_refl _⟩)

theorem le_trans {a b c : Timestamp} (h : a ≤ b) (h' : b ≤ c) : a ≤ c := by
  rw [le_iff] at *
  omega

end Timestamp

end LiveLesson
