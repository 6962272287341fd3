import LiveLesson.Proofs.Service.Runs
import LiveLesson.Proofs.Store.Fate

/-!
Runs over the tables, one event at a time: the table stays well formed, and a session changes as the
call of the event says. Where no call is made a session stays as it is, unless it is cleaned up.
-/

namespace LiveLesson.Event.Follows

variable {settings : PlaybackSettings} {operations : List Operation} {past : List (Event Tables)}
  {e : Event Tables} {id : SessionId}

theorem wellFormed (h : e.Follows Tables.world settings operations past)
    (hwf : e.before.sessions.WellFormed) : e.after.sessions.WellFormed := by
  cases hx : e.exchange with
  | some ix =>
    obtain ⟨_, around, _, _, _, hafter, _⟩ := h.answered hx
    rw [hafter]
    exact Tables.answer_wellFormed hwf around _
  | none =>
    obtain ⟨_, hsame | ⟨cutoff, hclean⟩⟩ := h.of_no_exchange hx
    · rwa [hsame]
    · rw [hclean]
      exact hwf.filter _

theorem lastId_le (h : e.Follows Tables.world settings operations past)
    (hwf : e.before.sessions.WellFormed) : e.before.sessions.lastId ≤ e.after.sessions.lastId := by
  cases hx : e.exchange with
  | some ix =>
    obtain ⟨_, around, _, _, _, hafter, _⟩ := h.answered hx
    rw [hafter]
    exact (Tables.answer_step hwf.distinct around _).lastId_le
  | none =>
    obtain ⟨_, hsame | ⟨cutoff, hclean⟩⟩ := h.of_no_exchange hx
    · exact hsame ▸ Int.le_refl _
    · rw [hclean]
      exact Int.le_refl _

theorem fate (h : e.Follows Tables.world settings operations past)
    (hwf : e.before.sessions.WellFormed) {i : Nat} {x : Exchange} (hx : e.exchange = some (i, x))
    (id : SessionId) :
    ∃ now, Fate now e.before.sessions.lastId id x (e.before.sessions.find? id)
      (e.after.sessions.find? id) := by
  obtain ⟨_, around, _, _, hxe, hafter, _⟩ := h.answered hx
  rw [hafter, hxe]
  exact ⟨around.now, Tables.answer_fate hwf around x.call id⟩

theorem find?_of_no_exchange (h : e.Follows Tables.world settings operations past)
    (hwf : e.before.sessions.WellFormed) (hx : e.exchange = none) {s : Session}
    (hs : e.after.sessions.find? id = some s) : e.before.sessions.find? id = some s := by
  obtain ⟨_, hsame | ⟨cutoff, hclean⟩⟩ := h.of_no_exchange hx
  · rwa [hsame] at hs
  · rw [hclean] at hs
    have hkept :=
      SessionTable.find?_filter hwf.distinct (fun s => !SessionTable.isStale cutoff s) id
    exact (Option.filter_eq_some_iff.1 (hkept ▸ hs)).1

end LiveLesson.Event.Follows
