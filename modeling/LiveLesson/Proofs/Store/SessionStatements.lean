import LiveLesson.Proofs.Store.SessionTable
import LiveLesson.Service.Database

/-!
What the commands on sessions do to a database that keeps a table: each reply, as it is read, and
the relation that is left. A condition on a row says what it says of the session in that row, so an
update is a change of the table.
-/

namespace LiveLesson

namespace Status

theorem text_injective {a b : Status} : a.text = b.text ↔ a = b := by
  cases a <;> cases b <;> decide

end Status

namespace Session

variable (s : Session)

theorem cell_id : Row.cell s.toRow "id" = .integer s.id.value := rfl

theorem cell_streamKey : Row.cell s.toRow "stream_key" = .text s.streamKey := rfl

theorem cell_status : Row.cell s.toRow "status" = .text s.status.text := rfl

theorem cell_provisionedAt : Row.cell s.toRow "provisioned_at" = .ofMoment? s.provisionedAt := rfl

theorem only_columns : Row.only columns s.toRow = s.toRow := rfl

theorem set_provisionedAt (now : Timestamp) :
    Row.set s.toRow "provisioned_at" (.moment now) = { s with provisionedAt := some now }.toRow :=
    rfl

theorem set_after (t : Transition) (now : Timestamp) :
    Row.set (Row.set s.toRow "status" (.text t.target.text)) (Command.momentColumn t)
      (.moment now) =
      (s.after t now).toRow := by
  cases t <;> rfl

end Session

namespace Condition

theorem holds_both (c c' : Condition) (b : Binding) (row : Row) :
    (both c c').holds b row = (c.holds b row && c'.holds b row) := rfl

theorem holds_equalsParameter {column : String} {n : Nat} {b : Binding} {row : Row} {x y : Cell}
    (hx : row.cell column = x) (hy : b.parameters.getD (n - 1) .null = y) (hne : x ≠ .null) :
    (Command.equalsParameter column n).holds b row = (x == y) := by
  have hnull : (x != Cell.null) = true := bne_iff_ne.2 hne
  simp only [Command.equalsParameter, holds, Term.value, hx, hy, hnull, Bool.true_and]

theorem beq_integer_value {e : Entity} (i j : Id e) :
    (Cell.integer i.value == Cell.integer j.value) = (i == j) := by
  rw [Bool.eq_iff_iff, beq_iff_eq, beq_iff_eq, Cell.integer.injEq]
  exact ⟨fun h => congrArg Id.mk h, fun h => congrArg Id.value h⟩

theorem holds_equalsId {e : Entity} {column : String} {n : Nat} {b : Binding} {row : Row}
    {i j : Id e} (hi : row.cell column = .integer i.value)
    (hj : b.parameters.getD (n - 1) .null = .integer j.value) :
    (Command.equalsParameter column n).holds b row = (i == j) :=
  (holds_equalsParameter hi hj (by simp)).trans (beq_integer_value i j)

variable (s : Session) (now : Timestamp)

theorem holds_id {id : SessionId} {ps : List Cell} {n : Nat}
    (hn : ps.getD (n - 1) .null = .integer id.value) :
    (Command.equalsParameter "id" n).holds ⟨ps, now⟩ s.toRow = (s.id == id) :=
  holds_equalsId s.cell_id hn

theorem holds_streamKey {key : String} {ps : List Cell} {n : Nat}
    (hn : ps.getD (n - 1) .null = .text key) :
    (Command.equalsParameter "stream_key" n).holds ⟨ps, now⟩ s.toRow = (s.streamKey == key) := by
  rw [holds_equalsParameter s.cell_streamKey hn (by simp), Bool.eq_iff_iff, beq_iff_eq, beq_iff_eq,
    Cell.text.injEq]

theorem holds_status {st : Status} {ps : List Cell} {n : Nat}
    (hn : ps.getD (n - 1) .null = .text st.text) :
    (Command.equalsParameter "status" n).holds ⟨ps, now⟩ s.toRow = (s.status == st) := by
  rw [holds_equalsParameter s.cell_status hn (by simp), Bool.eq_iff_iff, beq_iff_eq, beq_iff_eq,
    Cell.text.injEq, Status.text_injective]

theorem holds_unprovisioned (b : Binding) :
    (isNull (.column "provisioned_at")).holds b s.toRow = s.provisionedAt.isNone := by
  simp only [holds, Term.value, s.cell_provisionedAt]
  cases s.provisionedAt <;> rfl

end Condition

/-- The database keeps the sessions of a table, and gives out identifiers after the table's last
one. -/
def Database.Holds (d : Database) (t : SessionTable) : Prop :=
  d.relation? Command.sessions = some (sessionRelation t.lastId t.rows)

namespace Database

variable {d : Database} {t : SessionTable}

theorem relation?_put {name : String} {r r' : Relation} (h : d.relation? name = some r) :
    (d.put name r').relation? name = some r' := by
  induction d with
  | nil => cases h
  | cons entry d ih =>
    obtain ⟨n, old⟩ := entry
    by_cases hn : name = n
    · subst hn
      simp [relation?, put]
    · have hne : (name == n) = false := beq_eq_false_iff_ne.2 hn
      rw [relation?, List.lookup_cons, hne] at h
      have hrest := ih h
      simpa [relation?, put, List.lookup_cons, hne, Ne.symm hn] using hrest

theorem relation?_put_of_ne {name other : String} (hne : other ≠ name) (r : Relation) :
    (d.put name r).relation? other = d.relation? other := by
  induction d with
  | nil => rfl
  | cons entry d ih =>
    obtain ⟨n, old⟩ := entry
    by_cases hn : n = name
    · subst hn
      simpa [relation?, put, List.lookup_cons, beq_eq_false_iff_ne.2 hne] using ih
    · simp only [relation?, put, List.map_cons, if_neg hn, List.lookup_cons] at ih ⊢
      rw [ih]

theorem Holds.put (h : d.Holds t) (t' : SessionTable) :
    (d.put Command.sessions (sessionRelation t'.lastId t'.rows)).Holds t' :=
  relation?_put h

theorem decide_length_filter {α : Type} (p : α → Bool) (as : List α) :
    decide (0 < (as.filter p).length) = as.any p := by
  rw [Bool.eq_iff_iff, decide_eq_true_iff, List.length_pos_iff_exists_mem, List.any_eq_true]
  simp only [List.mem_filter]

theorem filter_toRow {α : Type} {toRow : α → Row} {c : Condition} {b : Binding} {p : α → Bool}
    (h : ∀ a, c.holds b (toRow a) = p a) (as : List α) :
    (as.map toRow).filter (fun row => c.holds b row) = (as.filter p).map toRow := by
  rw [List.filter_map]
  exact congrArg _ (List.filter_congr fun a _ => h a)

/-- An update changes the sessions that its condition holds of, and the reply says whether there
were any. -/
theorem Holds.update (h : d.Holds t) {column : String} {value : Term} {more : List (String × Term)}
    {c : Condition} {b : Binding} {p : Session → Bool} {f : Session → Session}
    (hp : ∀ s : Session, c.holds b s.toRow = p s)
    (hf : ∀ s : Session, ((column, value) :: more).foldl
      (fun new (n, v) => new.set n (v.value b s.toRow)) s.toRow =
      (f s).toRow) :
    let r := (Statement.update Command.sessions column value more c).execute b d
    r.1.changed = .ok (t.change p f).1 ∧ r.2.Holds (t.change p f).2 := by
  have hrows : (t.rows.map Session.toRow).map (fun row => if c.holds b row then
      ((column, value) :: more).foldl (fun new (n, v) => new.set n (v.value b row)) row else row) =
      (t.change p f).2.rows.map Session.toRow := by
    rw [SessionTable.change, List.map_map, List.map_map]
    refine List.map_congr_left fun s _ => ?_
    simp only [Function.comp_apply, hp, hf]
    split <;> rfl
  intro r
  have hr : r = (.done [] (t.rows.filter p).length,
      d.put Command.sessions (sessionRelation t.lastId (t.change p f).2.rows)) := by
    simp only [r, Statement.execute, show d.relation? Command.sessions = _ from h]
    simp only [sessionRelation, hrows, filter_toRow hp, List.length_map]
  rw [hr]
  exact ⟨congrArg Except.ok (decide_length_filter p t.rows), h.put (t.change p f).2⟩

theorem Holds.execute_delete (h : d.Holds t) {c : Condition} {b : Binding} {p : Session → Bool}
    (hp : ∀ s : Session, c.holds b s.toRow = p s) :
    (Statement.delete Command.sessions c).execute b d =
      (.done [] (t.rows.length - (t.rows.filter fun s => !p s).length),
        d.put Command.sessions (sessionRelation t.lastId (t.rows.filter fun s => !p s))) := by
  have hkept : (t.rows.map Session.toRow).filter (fun row => !c.holds b row) =
      (t.rows.filter fun s => !p s).map Session.toRow := by
    rw [List.filter_map]
    exact congrArg _ (List.filter_congr fun s _ => congrArg not (hp s))
  simp only [Statement.execute, show d.relation? Command.sessions = _ from h, sessionRelation,
    hkept, List.length_map]

theorem Holds.remove (h : d.Holds t) {c : Condition} {b : Binding} {p : Session → Bool}
    (hp : ∀ s : Session, c.holds b s.toRow = p s) :
    let r := (Statement.delete Command.sessions c).execute b d
    r.1.changed = .ok (t.rows.any p) ∧
      r.2.Holds { t with rows := t.rows.filter fun s => !p s } := by
  rw [h.execute_delete hp]
  refine ⟨congrArg Except.ok ?_, h.put { t with rows := t.rows.filter fun s => !p s }⟩
  have hle := List.length_filter_le (fun s => !p s) t.rows
  have hne := SessionTable.filter_length_ne (fun s => !p s) t.rows
  simp only [Bool.not_not] at hne
  rw [← hne, Bool.eq_iff_iff, decide_eq_true_iff, bne_iff_ne]
  omega

variable (now : Timestamp) (media : Except MediaError Unit)

theorem Holds.markProvisioned (h : d.Holds t) (hd : SessionTable.Distinct t.rows) (id : SessionId) :
    let r := answer now media (.markProvisioned id) d
    r.1 = .ok (t.markProvisioned id now).1 ∧
      r.2.Holds ⟨t.lastId, (t.markProvisioned id now).2.rows⟩ := by
  rw [SessionTable.markProvisioned_eq hd]
  refine h.update (fun s => ?_) fun s => s.set_provisionedAt now
  rw [Condition.holds_both, Condition.holds_id s now rfl, Condition.holds_unprovisioned]

theorem Holds.transitionById (h : d.Holds t) (hd : SessionTable.Distinct t.rows) (id : SessionId)
    (tr : Transition) :
    let r := answer now media (.transitionById id tr) d
    r.1 = .ok (t.transitionById id tr now).1 ∧
      r.2.Holds ⟨t.lastId, (t.transitionById id tr now).2.rows⟩ := by
  rw [SessionTable.transitionById_eq hd]
  refine h.update (fun s => ?_) fun s => s.set_after tr now
  rw [Condition.holds_both, Condition.holds_id s now rfl, Condition.holds_status s now rfl]

theorem Holds.transitionByKey (h : d.Holds t) (hd : SessionTable.Distinct t.rows) (key : String)
    (tr : Transition) :
    let r := answer now media (.transitionByKey key tr) d
    r.1 = .ok (t.transitionByKey key tr now).1 ∧
      r.2.Holds ⟨t.lastId, (t.transitionByKey key tr now).2.rows⟩ := by
  rw [SessionTable.transitionByKey_eq hd]
  refine h.update (fun s => ?_) fun s => s.set_after tr now
  rw [Condition.holds_both, Condition.holds_streamKey s now rfl, Condition.holds_status s now rfl]

theorem optional_rows {α : Type} {toRow : α → Row} {ofRow : Row → Except StoreError α}
    (h : ∀ a, ofRow (toRow a) = .ok a) (as : List α) (n : Nat) :
    (Reply.done (as.map toRow) n).optional ofRow = .ok as.head? := by
  cases as with
  | nil => rfl
  | cons a as =>
    show (do return some (← ofRow (toRow a)) : Except StoreError (Option α)) = _
    rw [h]
    rfl

theorem Holds.findSession (h : d.Holds t) (id : SessionId) :
    answer now media (.findSession id) d = (.ok (t.find? id), d) := by
  have hfound := filter_toRow (b := ⟨[.integer id.value], now⟩)
    (fun s => Condition.holds_id (n := 1) s now rfl) t.rows
  simp only [answer, Call.command?, Command.findSession, Command.execute, Statement.execute,
    show d.relation? Command.sessions = _ from h, sessionRelation, hfound, List.map_map]
  exact congrArg (·, d) ((optional_rows Session.ofRow_toRow _ _).trans
    (congrArg Except.ok List.head?_filter))

theorem Holds.deleteSession (h : d.Holds t) (id : SessionId) :
    let r := answer now media (.deleteSession id) d
    r.1 = .ok (t.delete id).1 ∧ r.2.Holds ⟨t.lastId, (t.delete id).2.rows⟩ := by
  rw [SessionTable.delete_eq]
  exact h.remove fun s => Condition.holds_id s now rfl

theorem clashes_toRow {l : Int} {rows : List Session} {s : Session}
    (hfresh : ∀ r ∈ rows, r.id.value ≠ s.id.value) :
    (sessionRelation l rows).clashes s.toRow = rows.any fun r => r.streamKey == s.streamKey := by
  have hid : (rows.any fun r => Cell.integer r.id.value == Cell.integer s.id.value) = false := by
    simpa using hfresh
  have hkey : (rows.any fun r => Cell.text r.streamKey == Cell.text s.streamKey) =
      rows.any fun r => r.streamKey == s.streamKey := by
    rw [Bool.eq_iff_iff]
    simp
  have hor : (sessionRelation l rows).clashes s.toRow =
      ((rows.any fun r => Cell.integer r.id.value == Cell.integer s.id.value) ||
        ((rows.any fun r => Cell.text r.streamKey == Cell.text s.streamKey) || false)) := by
    simp only [Relation.clashes, sessionRelation, List.any_cons, List.any_nil, List.any_map]
    rfl
  rw [hor, hid, hkey, Bool.false_or, Bool.or_false]

/-- What the database adds is a pending session under the next identifier, which is used up in any
case. -/
theorem Holds.execute_insertPending (h : d.Holds t)
    (hfresh : ∀ s ∈ t.rows, s.id.value ≠ t.lastId + 1) (course : CourseId) (key : String) :
    (Command.insertPending course key).execute now d =
      if t.rows.any fun s => s.streamKey == key then
        (Statement.duplicate, d.put Command.sessions (sessionRelation (t.lastId + 1) t.rows))
      else
        let s := Session.pending ⟨t.lastId + 1⟩ course key now
        (.done [s.toRow] 1, d.put Command.sessions
          (sessionRelation (t.lastId + 1) (t.rows ++ [s]))) := by
  have hrow : (sessionRelation t.lastId t.rows).complete now
      (["course_id", "stream_key", "status"].zip ([Term.parameter 1, .parameter 2, .parameter 3].map
        (Term.value ⟨[.integer course.value, .text key, .text Status.pending.text], now⟩ []))) =
      (Session.pending ⟨t.lastId + 1⟩ course key now).toRow := rfl
  have hclash : (sessionRelation t.lastId t.rows).clashes
      (Session.pending ⟨t.lastId + 1⟩ course key now).toRow =
      t.rows.any fun s => s.streamKey == key := clashes_toRow hfresh
  simp only [Command.execute, Command.insertPending, Statement.execute,
    show d.relation? Command.sessions = _ from h]
  rw [Relation.add, hrow, hclash]
  by_cases htaken : (t.rows.any fun s => s.streamKey == key) = true
  · rw [if_pos htaken, if_pos htaken]
    rfl
  · rw [if_neg htaken, if_neg htaken]
    simp only [Session.only_columns, sessionRelation, List.map_append]
    rfl

theorem single_session (s : Session) : (Reply.done [s.toRow] 1).single Session.ofRow = .ok s :=
  s.ofRow_toRow

/-- An insertion uses up an identifier in any case; if the key is taken, the error is the database's
own. -/
theorem Holds.insertPending (h : d.Holds t) (hfresh : ∀ s ∈ t.rows, s.id.value ≠ t.lastId + 1)
    (course : CourseId) (key : String) :
    let r := answer now media (.insertPending course key) d
    let r' := t.insertPending course key now
    (r.1 = r'.1 ∨ (r'.1 = .error SessionTable.duplicateKey ∧
      ∃ message, r.1 = .error (.database message))) ∧
      r.2.Holds ⟨t.lastId + 1, r'.2.rows⟩ := by
  simp only [answer, Call.command?, h.execute_insertPending now hfresh, SessionTable.insertPending]
  split
  · exact ⟨.inr ⟨rfl, _, rfl⟩, h.put ⟨t.lastId + 1, t.rows⟩⟩
  · exact ⟨.inl (single_session _), h.put ⟨t.lastId + 1, _⟩⟩

end Database

end LiveLesson
