import LiveLesson.Session.Basic

/-!
The life of one session. A call leaves a session as it is, notes the media server's consent, or
moves it on; each of these keeps what names the session and every moment that was noted before, and
the moments fit the status.
-/

namespace LiveLesson.Session

/-- The moments that are set are those that the status calls for. -/
def IsCoherent (s : Session) : Prop :=
  match s.status with
  | .pending => s.startedAt = none ∧ s.endedAt = none
  | .live => s.startedAt.isSome = true ∧ s.endedAt = none
  | .ended => s.startedAt.isSome = true ∧ s.endedAt.isSome = true

/-- The moments that are set follow one another in the order of the session's life. -/
structure InOrder (s : Session) : Prop where
  started : ∀ a ∈ s.startedAt, s.createdAt ≤ a
  ended : ∀ b ∈ s.endedAt, s.createdAt ≤ b
  between : ∀ a ∈ s.startedAt, ∀ b ∈ s.endedAt, a ≤ b

/-- The session was created and perhaps started by a given moment. -/
structure IsUpTo (now : Timestamp) (s : Session) : Prop where
  created : s.createdAt ≤ now
  started : ∀ a ∈ s.startedAt, a ≤ now

/-- The second session is a later state of the first one: what names it is the same, and no moment
that was set has changed or was cleared. -/
structure Continues (s s' : Session) : Prop where
  id : s'.id = s.id
  course : s'.course = s.course
  streamKey : s'.streamKey = s.streamKey
  createdAt : s'.createdAt = s.createdAt
  startedAt : ∀ m, s.startedAt = some m → s'.startedAt = some m
  endedAt : ∀ m, s.endedAt = some m → s'.endedAt = some m
  provisionedAt : ∀ m, s.provisionedAt = some m → s'.provisionedAt = some m

theorem Continues.refl (s : Session) : s.Continues s :=
  ⟨rfl, rfl, rfl, rfl, fun _ h => h, fun _ h => h, fun _ h => h⟩

theorem Continues.trans {s s' s'' : Session} (h : s.Continues s') (h' : s'.Continues s'') :
    s.Continues s'' where
  id := h'.id.trans h.id
  course := h'.course.trans h.course
  streamKey := h'.streamKey.trans h.streamKey
  createdAt := h'.createdAt.trans h.createdAt
  startedAt m hm := h'.startedAt m (h.startedAt m hm)
  endedAt m hm := h'.endedAt m (h.endedAt m hm)
  provisionedAt m hm := h'.provisionedAt m (h.provisionedAt m hm)

/-- What one call can do to a session that stays. -/
inductive Advance (now : Timestamp) (s : Session) : Session → Prop
  | none : Advance now s s
  | provisioned : s.provisionedAt = .none → Advance now s { s with provisionedAt := some now }
  | moved (t : Transition) : s.status = t.source → Advance now s (s.after t now)

theorem startedAt_eq_none_of_pending {s : Session} (hs : s.IsCoherent) (h : s.status = .pending) :
    s.startedAt = none ∧ s.endedAt = none := by
  simpa [IsCoherent, h] using hs

theorem endedAt_eq_none_of_live {s : Session} (hs : s.IsCoherent) (h : s.status = .live) :
    s.startedAt.isSome = true ∧ s.endedAt = none := by
  simpa [IsCoherent, h] using hs

theorem pending_isCoherent (id : SessionId) (course : CourseId) (key : String) (now : Timestamp) :
    (pending id course key now).IsCoherent := ⟨rfl, rfl⟩

theorem pending_inOrder (id : SessionId) (course : CourseId) (key : String) (now : Timestamp) :
    (pending id course key now).InOrder := by
  constructor <;> simp [pending]

theorem pending_isUpTo (id : SessionId) (course : CourseId) (key : String) (now : Timestamp) :
    (pending id course key now).IsUpTo now :=
  ⟨Timestamp.le_refl now, by simp [pending]⟩

theorem IsUpTo.mono {s : Session} {m now : Timestamp} (h : s.IsUpTo m) (hle : m ≤ now) :
    s.IsUpTo now :=
  ⟨Timestamp.le_trans h.created hle, fun a ha => Timestamp.le_trans (h.started a ha) hle⟩

namespace Advance

variable {now : Timestamp} {s s' : Session}

theorem names (h : Advance now s s') : s'.id = s.id ∧ s'.streamKey = s.streamKey := by
  cases h <;> simp

theorem isCoherent (h : Advance now s s') (hs : s.IsCoherent) : s'.IsCoherent := by
  cases h with
  | none => exact hs
  | provisioned hnone => exact hs
  | moved t hsource =>
    cases t with
    | start => exact ⟨rfl, (startedAt_eq_none_of_pending hs hsource).2⟩
    | finish => exact ⟨(endedAt_eq_none_of_live hs hsource).1, rfl⟩

theorem continues (h : Advance now s s') (hs : s.IsCoherent) : s.Continues s' := by
  cases h with
  | none => exact Continues.refl s
  | provisioned hnone => exact { Continues.refl s with provisionedAt := by simp [hnone] }
  | moved t hsource =>
    cases t with
    | start =>
      have hnone := (startedAt_eq_none_of_pending hs hsource).1
      exact ⟨rfl, rfl, rfl, rfl, by simp [hnone], fun _ h => h, fun _ h => h⟩
    | finish =>
      have hnone := (endedAt_eq_none_of_live hs hsource).2
      exact ⟨rfl, rfl, rfl, rfl, fun _ h => h, by simp [hnone], fun _ h => h⟩

theorem isUpTo (h : Advance now s s') (hs : s.IsUpTo now) : s'.IsUpTo now := by
  cases h with
  | none => exact hs
  | provisioned hnone => exact ⟨hs.created, hs.started⟩
  | moved t hsource =>
    cases t with
    | start => exact ⟨hs.created, by simp [after, Timestamp.le_refl]⟩
    | finish => exact ⟨hs.created, hs.started⟩

theorem inOrder (h : Advance now s s') (hs : s.IsCoherent) (hup : s.IsUpTo now) (ho : s.InOrder) :
    s'.InOrder := by
  cases h with
  | none => exact ho
  | provisioned hnone => exact ⟨ho.started, ho.ended, ho.between⟩
  | moved t hsource =>
    cases t with
    | start =>
      have hnone : (s.after .start now).endedAt = .none :=
        (startedAt_eq_none_of_pending hs hsource).2
      exact ⟨by simpa [after] using hup.created, by simp [hnone], by simp [hnone]⟩
    | finish =>
      refine ⟨ho.started, by simpa [after] using hup.created, ?_⟩
      intro a ha b hb
      obtain rfl : now = b := by simpa [after] using hb
      exact hup.started a ha

end Advance

end LiveLesson.Session
