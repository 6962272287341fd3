import LiveLesson.Proofs.Session.Life

/-!
What clients see of a session in the course of its life. A view shows one of three pictures, one for
each status; a later view of the same session shows the same names, a status that has not gone back,
and every moment that was seen before.
-/

namespace LiveLesson

namespace Status

def rank : Status → Nat
  | pending => 0
  | live => 1
  | ended => 2

instance : LE Status := ⟨fun a b => a.rank ≤ b.rank⟩

instance (a b : Status) : Decidable (a ≤ b) := inferInstanceAs (Decidable (a.rank ≤ b.rank))

theorem le_trans {a b c : Status} (h : a ≤ b) (h' : b ≤ c) : a ≤ c := Nat.le_trans h h'

theorem ne_source_of_target_le {t : Transition} {a : Status} (h : t.target ≤ a) : a ≠ t.source := by
  rintro rfl
  cases t <;> exact absurd h (by decide)

end Status

namespace SessionView

/-- The moments and the playback addresses are those that the status calls for. -/
def IsProper (settings : PlaybackSettings) (v : SessionView) : Prop :=
  match v.status with
  | .pending => v.startedAt = none ∧ v.endedAt = none ∧ v.playUrls = none
  | .live => v.startedAt.isSome = true ∧ v.endedAt = none ∧
    v.playUrls = some (PlaybackUrls.ofKey settings v.streamKey)
  | .ended => v.startedAt.isSome = true ∧ v.endedAt.isSome = true ∧ v.playUrls = none

/-- The second view may be shown after the first one. -/
structure Precedes (v w : SessionView) : Prop where
  course : w.course = v.course
  streamKey : w.streamKey = v.streamKey
  createdAt : w.createdAt = v.createdAt
  status : v.status ≤ w.status
  startedAt : ∀ m, v.startedAt = some m → w.startedAt = some m
  endedAt : ∀ m, v.endedAt = some m → w.endedAt = some m

theorem Precedes.trans {u v w : SessionView} (h : u.Precedes v) (h' : v.Precedes w) :
    u.Precedes w where
  course := h'.course.trans h.course
  streamKey := h'.streamKey.trans h.streamKey
  createdAt := h'.createdAt.trans h.createdAt
  status := Status.le_trans h.status h'.status
  startedAt m hm := h'.startedAt m (h.startedAt m hm)
  endedAt m hm := h'.endedAt m (h.endedAt m hm)

end SessionView

namespace Session

theorem view_isProper {s : Session} (h : s.IsCoherent) (settings : PlaybackSettings) :
    (s.view settings).IsProper settings := by
  cases hstatus : s.status <;>
    simp_all [IsCoherent, SessionView.IsProper, view, playUrls]

/-- A session never goes back: the moments that its status is known by stay set. -/
theorem Continues.status_le {s s' : Session} (h : s.Continues s') (hs : s.IsCoherent)
    (hs' : s'.IsCoherent) : s.status ≤ s'.status := by
  have hstarted : s.startedAt.isSome = true → s'.startedAt.isSome = true := by
    rw [Option.isSome_iff_exists, Option.isSome_iff_exists]
    exact fun ⟨m, hm⟩ => ⟨m, h.startedAt m hm⟩
  have hended : s.endedAt.isSome = true → s'.endedAt.isSome = true := by
    rw [Option.isSome_iff_exists, Option.isSome_iff_exists]
    exact fun ⟨m, hm⟩ => ⟨m, h.endedAt m hm⟩
  cases hst : s.status <;> cases hst' : s'.status <;> simp only [IsCoherent, hst, hst'] at hs hs'
  case pending.pending | pending.live | pending.ended | live.live | live.ended | ended.ended =>
    decide
  case live.pending => simp [hs'.1, hs.1] at hstarted
  case ended.pending => simp [hs'.1, hs.1] at hstarted
  case ended.live => simp [hs'.2, hs.2] at hended

theorem Continues.precedes {s s' : Session} (h : s.Continues s') (hs : s.IsCoherent)
    (hs' : s'.IsCoherent) (settings : PlaybackSettings) :
    (s.view settings).Precedes (s'.view settings) where
  course := h.course
  streamKey := h.streamKey
  createdAt := h.createdAt
  status := h.status_le hs hs'
  startedAt := h.startedAt
  endedAt := h.endedAt

end Session

end LiveLesson
