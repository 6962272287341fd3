import LiveLesson.Proofs.Store.SessionStatements
import LiveLesson.Proofs.Store.TableStep

/-!
Stale sessions, and what keeps a session from being one. From one state of the table to a later one
sessions only get older, so a session that was started or accepted by the media server is not stale
then either.
-/

namespace LiveLesson

namespace Session

/-- The session was started, or the media server's consent was noted. -/
def IsUnderWay (s : Session) : Prop := s.startedAt ≠ none ∨ s.provisionedAt ≠ none

theorem IsUnderWay.continues {s s' : Session} (h : s.IsUnderWay) (hs : s.Continues s') :
    s'.IsUnderWay := by
  obtain hstarted | hprovisioned := h
  · obtain ⟨m, hm⟩ := Option.ne_none_iff_exists'.1 hstarted
    exact .inl (by simp [hs.startedAt m hm])
  · obtain ⟨m, hm⟩ := Option.ne_none_iff_exists'.1 hprovisioned
    exact .inr (by simp [hs.provisionedAt m hm])

theorem toRow_injective : Function.Injective toRow := by
  intro s s' h
  have hread : Session.ofRow s.toRow = Session.ofRow s'.toRow := congrArg Session.ofRow h
  rw [ofRow_toRow, ofRow_toRow] at hread
  exact Except.ok.inj hread

end Session

namespace SessionTable

theorem isStale_iff {cutoff : Timestamp} {s : Session} :
    isStale cutoff s = true ↔ s.status = .pending ∧ s.provisionedAt = none ∧
    s.createdAt < cutoff := by
  simp [isStale, and_assoc]

theorem not_stale_of_underWay {s : Session} (h : s.IsUnderWay) (hs : s.IsCoherent)
    (cutoff : Timestamp) : isStale cutoff s = false := by
  rw [Bool.eq_false_iff]
  intro hstale
  obtain ⟨hpending, hnone, _⟩ := isStale_iff.1 hstale
  exact h.elim (absurd (Session.startedAt_eq_none_of_pending hs hpending).1) (absurd hnone)

theorem deleteStale_eq (t : SessionTable) (cutoff : Timestamp) :
    t.deleteStale cutoff =
      (t.rows.countP (isStale cutoff),
        { t with rows := t.rows.filter fun s => !isStale cutoff s }) := by
  have hcount := List.length_eq_countP_add_countP (l := t.rows) (isStale cutoff)
  have hkept : (t.rows.filter fun s => !isStale cutoff s).length =
      t.rows.countP fun s => decide ¬isStale cutoff s = true := by
    rw [← List.countP_eq_length_filter]
    exact List.countP_congr fun s _ => by simp
  simp only [deleteStale, Prod.mk.injEq, and_true]
  omega

theorem underWay_of_markProvisioned {t : SessionTable} (h : Distinct t.rows) {id : SessionId}
    {now : Timestamp} (hmarked : (t.markProvisioned id now).1 = true) :
    ∃ s ∈ t.rows, s.id = id ∧ ∃ s' ∈ (t.markProvisioned id now).2.rows, s'.id = id ∧
    s'.IsUnderWay := by
  rw [markProvisioned_eq h] at hmarked ⊢
  obtain ⟨s, hs, hps, _, hfind⟩ | ⟨_, hsame⟩ := change_cases h
    (h.atMostOne_id id fun s => s.provisionedAt.isNone)
    (f := fun s => { s with provisionedAt := some now }) fun s => rfl
  · obtain ⟨hid, _⟩ : s.id = id ∧ s.provisionedAt = none := by simpa using hps
    have hs' := hfind id
    rw [if_pos hid.symm] at hs'
    exact ⟨s, mem_of_find? hs, hid, _, mem_of_find? hs', hid, .inr (by simp)⟩
  · rw [hsame] at hmarked
    cases hmarked

/-- A later state of a table: under the identifiers that were given out before, there is nothing but
what was there, each session perhaps further on in its life. -/
structure LeadsTo (t t' : SessionTable) : Prop where
  lastId_le : t.lastId ≤ t'.lastId
  continues : ∀ s' ∈ t'.rows, s'.id.value ≤ t.lastId → ∃ s ∈ t.rows, s.Continues s'

namespace LeadsTo

variable {t t' t'' : SessionTable}

theorem refl (t : SessionTable) : t.LeadsTo t :=
  ⟨Int.le_refl _, fun s hs _ => ⟨s, hs, .refl s⟩⟩

theorem trans (h : t.LeadsTo t') (h' : t'.LeadsTo t'') : t.LeadsTo t'' where
  lastId_le := Int.le_trans h.lastId_le h'.lastId_le
  continues s'' hs'' hle := by
    obtain ⟨s', hs', hlater⟩ := h'.continues s'' hs'' (Int.le_trans hle h.lastId_le)
    obtain ⟨s, hs, hearlier⟩ := h.continues s' hs' (by rwa [← hlater.id])
    exact ⟨s, hs, hearlier.trans hlater⟩

theorem of_lastId_le (t : SessionTable) {l : Int} (hl : t.lastId ≤ l) : t.LeadsTo ⟨l, t.rows⟩ :=
  ⟨hl, (refl t).continues⟩

theorem of_filter (t : SessionTable) (p : Session → Bool) :
    t.LeadsTo { t with rows := t.rows.filter p } :=
  ⟨Int.le_refl _, fun s hs _ => ⟨s, List.mem_of_mem_filter hs, .refl s⟩⟩

theorem of_step {now : Timestamp} (h : Step now t t') (ht : t.WellFormed) : t.LeadsTo t' where
  lastId_le := h.lastId_le
  continues s' hs' hle := by
    by_cases hfound : ∃ s ∈ t.rows, s.id = s'.id
    · obtain ⟨s, hs, hid⟩ := hfound
      exact ⟨s, hs, h.continues ht hs hs' hid.symm⟩
    · have hnone : ∀ s ∈ t.rows, s.id ≠ s'.id := by simpa using hfound
      exact absurd rfl (h.absent hle hnone s' hs')

end LeadsTo

end SessionTable

namespace Database

def Stores (d : Database) (s : Session) : Prop :=
  ∃ r, d.relation? Command.sessions = some r ∧ s.toRow ∈ r.rows

variable {d : Database} {t t' : SessionTable}

theorem Holds.stores_iff (h : d.Holds t) {s : Session} : d.Stores s ↔ s ∈ t.rows := by
  constructor
  · rintro ⟨r, hr, hs⟩
    obtain rfl : sessionRelation t.lastId t.rows = r := Option.some.inj (h.symm.trans hr)
    obtain ⟨s', hs', heq⟩ := List.mem_map.1 hs
    exact Session.toRow_injective heq ▸ hs'
  · exact fun hs => ⟨_, h, List.mem_map_of_mem hs⟩

theorem Holds.unique (h : d.Holds t) (h' : d.Holds t') : t = t' := by
  have hsame : sessionRelation t.lastId t.rows = sessionRelation t'.lastId t'.rows :=
    Option.some.inj (h.symm.trans h')
  have hlast : t.lastId = t'.lastId := congrArg Relation.lastId hsame
  have hrows : t.rows = t'.rows :=
    List.map_injective_iff.2 Session.toRow_injective (congrArg Relation.rows hsame)
  exact congrArg₂ SessionTable.mk hlast hrows

theorem Holds.deleteStale (h : d.Holds t) (now cutoff : Timestamp) :
    d.deleteStale now cutoff = (.ok (t.deleteStale cutoff).1,
      d.put Command.sessions (sessionRelation t.lastId (t.deleteStale cutoff).2.rows)) := by
  have hp : ∀ s : Session, (Condition.both (Command.equalsParameter "status" 1)
      (.both (.isNull (.column "provisioned_at"))
        (.before (.column "created_at") (.parameter 2)))).holds
        ⟨[.text Status.pending.text, .moment cutoff], now⟩ s.toRow =
          SessionTable.isStale cutoff s := by
    intro s
    have hstatus : (Command.equalsParameter "status" 1).holds
        ⟨[.text Status.pending.text, .moment cutoff], now⟩
        s.toRow = (s.status == .pending) := Condition.holds_status s now rfl
    rw [Condition.holds_both, Condition.holds_both, hstatus, Condition.holds_unprovisioned,
      SessionTable.isStale, Bool.and_assoc]
    rfl
  unfold Database.deleteStale
  rw [Command.execute, Command.deleteStale, h.execute_delete hp]
  rfl

theorem Holds.holds_deleteStale (h : d.Holds t) (now cutoff : Timestamp) :
    (d.deleteStale now cutoff).2.Holds (t.deleteStale cutoff).2 := by
  rw [h.deleteStale]
  exact h.put (t.deleteStale cutoff).2

end Database

end LiveLesson
