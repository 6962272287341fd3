import LiveLesson.Store.SessionTable
import Mathlib.Data.List.Nodup
import Mathlib.Tactic.Tauto

/-!
The session table as a set of rows. Where identifiers and stream keys are distinct, an operation
that changes the first row of a kind changes every row of that kind, so it is a map over all rows.
What a later call can find under an identifier is told for each operation.
-/

namespace LiveLesson

def AtMostOne {α : Type} (p : α → Bool) (as : List α) : Prop :=
  as.Pairwise fun a b => ¬(p a = true ∧ p b = true)

theorem AtMostOne.eq {α : Type} {p : α → Bool} {as : List α} (h : AtMostOne p as) {a b : α}
    (ha : a ∈ as) (hb : b ∈ as) (hpa : p a = true) (hpb : p b = true) : a = b := by
  induction as with
  | nil => cases ha
  | cons c as ih =>
    obtain ⟨hc, has⟩ := List.pairwise_cons.1 h
    rcases List.mem_cons.1 ha with rfl | ha' <;> rcases List.mem_cons.1 hb with rfl | hb'
    · rfl
    · exact absurd ⟨hpa, hpb⟩ (hc b hb')
    · exact absurd ⟨hpb, hpa⟩ (hc a ha')
    · exact ih has ha' hb'

theorem any_and_of_unique {α : Type} {as : List α} {a : α} (ha : a ∈ as) {p q : α → Bool}
    (hp : p a = true) (hone : ∀ b ∈ as, p b = true → b = a) :
    (as.any fun b => p b && q b) = q a := by
  rw [Bool.eq_iff_iff, List.any_eq_true]
  constructor
  · rintro ⟨b, hb, hboth⟩
    obtain ⟨hpb, hqb⟩ := Bool.and_eq_true_iff.1 hboth
    rwa [hone b hb hpb] at hqb
  · intro hq
    exact ⟨a, ha, by simp [hp, hq]⟩

theorem map_if_of_forall_not {α : Type} {p : α → Bool} (f : α → α) {as : List α}
    (h : ∀ a ∈ as, p a = false) : as.map (fun a => if p a then f a else a) = as := by
  have hid : as.map (fun a => if p a then f a else a) = as.map id :=
    List.map_congr_left fun a ha => by simp [h a ha]
  rw [hid, List.map_id]

theorem updateFirst_of_atMostOne {α : Type} {p : α → Bool} (f : α → α) {as : List α}
    (h : AtMostOne p as) :
    updateFirst p f as =
      if as.any p then some (as.map fun a => if p a then f a else a) else none := by
  induction as with
  | nil => rfl
  | cons a as ih =>
    obtain ⟨ha, has⟩ := List.pairwise_cons.1 h
    by_cases hp : p a = true
    · have hrest : as.map (fun b => if p b then f b else b) = as :=
        map_if_of_forall_not f fun b hb => by
          have hb := ha b hb
          simpa [hp] using hb
      simp [updateFirst, hp, hrest]
    · rw [updateFirst, if_neg hp, ih has]
      by_cases hany : as.any p = true
      · simp [hp, hany]
      · simp [hp, hany]

namespace SessionTable

structure Distinct (rows : List Session) : Prop where
  ids : rows.Pairwise fun a b => a.id ≠ b.id
  keys : rows.Pairwise fun a b => a.streamKey ≠ b.streamKey

theorem Distinct.atMostOne_id {rows : List Session} (h : Distinct rows) (id : SessionId)
    (p : Session → Bool) : AtMostOne (fun s => s.id == id && p s) rows := by
  refine h.ids.imp ?_
  intro a b hne hboth
  simp only [Bool.and_eq_true, beq_iff_eq] at hboth
  exact hne (hboth.1.1.trans hboth.2.1.symm)

theorem Distinct.atMostOne_key {rows : List Session} (h : Distinct rows) (key : String)
    (p : Session → Bool) : AtMostOne (fun s => s.streamKey == key && p s) rows := by
  refine h.keys.imp ?_
  intro a b hne hboth
  simp only [Bool.and_eq_true, beq_iff_eq] at hboth
  exact hne (hboth.1.1.trans hboth.2.1.symm)

theorem Distinct.eq_of_id {rows : List Session} (h : Distinct rows) {a b : Session}
    (ha : a ∈ rows) (hb : b ∈ rows) (hid : a.id = b.id) : a = b :=
  List.inj_on_of_nodup_map (List.pairwise_map.2 h.ids) ha hb hid

theorem Distinct.eq_of_key {rows : List Session} (h : Distinct rows) {a b : Session}
    (ha : a ∈ rows) (hb : b ∈ rows) (hkey : a.streamKey = b.streamKey) : a = b :=
  List.inj_on_of_nodup_map (List.pairwise_map.2 h.keys) ha hb hkey

/-- Changes every row of a kind, and says whether there was any. -/
def change (t : SessionTable) (p : Session → Bool) (f : Session → Session) : Bool × SessionTable :=
  (t.rows.any p, { t with rows := t.rows.map fun s => if p s then f s else s })

variable {t : SessionTable}

theorem replace_updateFirst {p : Session → Bool} (f : Session → Session) (h : AtMostOne p t.rows) :
    t.replace (updateFirst p f t.rows) = t.change p f := by
  rw [updateFirst_of_atMostOne f h]
  by_cases hany : t.rows.any p = true
  · simp [replace, change, hany]
  · have hnone : ∀ s ∈ t.rows, p s = false := by simpa using hany
    rw [if_neg hany, change, map_if_of_forall_not f hnone]
    simpa [replace] using hnone

theorem markProvisioned_eq (h : Distinct t.rows) (id : SessionId) (now : Timestamp) :
    t.markProvisioned id now = t.change (fun s => s.id == id && s.provisionedAt.isNone)
      (fun s => { s with provisionedAt := some now }) :=
  replace_updateFirst _ (h.atMostOne_id id _)

theorem transitionById_eq (h : Distinct t.rows) (id : SessionId) (tr : Transition)
    (now : Timestamp) :
    t.transitionById id tr now = t.change (fun s => s.id == id && s.status == tr.source)
      (fun s => s.after tr now) :=
  replace_updateFirst _ (h.atMostOne_id id _)

theorem transitionByKey_eq (h : Distinct t.rows) (key : String) (tr : Transition)
    (now : Timestamp) :
    t.transitionByKey key tr now = t.change (fun s => s.streamKey == key && s.status == tr.source)
      (fun s => s.after tr now) :=
  replace_updateFirst _ (h.atMostOne_key key _)

theorem filter_length_ne {α : Type} (p : α → Bool) (as : List α) :
    ((as.filter p).length != as.length) = as.any fun a => !p a := by
  rw [Bool.eq_iff_iff, bne_iff_ne, List.any_eq_true]
  constructor
  · intro hne
    by_contra hnone
    refine hne (congrArg List.length (List.filter_eq_self.2 fun a ha => ?_))
    by_contra hp
    exact hnone ⟨a, ha, by simpa using hp⟩
  · rintro ⟨a, ha, hp⟩ hlen
    have hall := List.length_filter_eq_length_iff.1 hlen a ha
    simp [hall] at hp

theorem delete_eq (t : SessionTable) (id : SessionId) :
    t.delete id =
      (t.rows.any fun s => s.id == id, { t with rows := t.rows.filter fun s => s.id != id }) := by
  rw [delete, filter_length_ne]
  simp [bne]

theorem find?_eq_some_iff (h : Distinct t.rows) {id : SessionId} {s : Session} :
    t.find? id = some s ↔ s ∈ t.rows ∧ s.id = id := by
  constructor
  · intro hs
    exact ⟨List.mem_of_find?_eq_some hs, by simpa using List.find?_some hs⟩
  · rintro ⟨hs, rfl⟩
    cases hfind : t.find? s.id with
    | none =>
      have hnone := List.find?_eq_none.1 hfind s hs
      simp at hnone
    | some s' =>
      have hs' := List.mem_of_find?_eq_some hfind
      have hid : s'.id = s.id := by simpa using List.find?_some hfind
      rw [h.eq_of_id hs' hs hid]

theorem find?_eq_none_iff {id : SessionId} : t.find? id = none ↔ ∀ s ∈ t.rows, s.id ≠ id := by
  simp [find?]

theorem id_of_find? {id : SessionId} {s : Session} (h : t.find? id = some s) : s.id = id := by
  simpa using List.find?_some h

theorem mem_of_find? {id : SessionId} {s : Session} (h : t.find? id = some s) : s ∈ t.rows :=
  List.mem_of_find?_eq_some h

theorem find?_change {p : Session → Bool} {f : Session → Session} (hf : ∀ s, (f s).id = s.id)
    (id : SessionId) :
    (t.change p f).2.find? id = (t.find? id).map fun s => if p s then f s else s := by
  have hid : ∀ s : Session, (if p s then f s else s).id = s.id := by
    intro s
    split
    · exact hf s
    · rfl
  simp only [change, find?, List.find?_map, Function.comp_def, hid]

/-- Changing what satisfies a predicate changes one session, or nothing. -/
theorem change_cases (h : Distinct t.rows) {p : Session → Bool} (hp : AtMostOne p t.rows)
    {f : Session → Session} (hf : ∀ s, (f s).id = s.id) :
    (∃ s, t.find? s.id = some s ∧ p s = true ∧ (t.change p f).1 = true ∧
      ∀ id, (t.change p f).2.find? id = if id = s.id then some (f s) else t.find? id) ∨
    ((∀ s ∈ t.rows, p s = false) ∧ t.change p f = (false, t)) := by
  by_cases hany : ∃ s ∈ t.rows, p s = true
  · obtain ⟨s, hs, hps⟩ := hany
    have hfind : t.find? s.id = some s := (find?_eq_some_iff h).2 ⟨hs, rfl⟩
    refine .inl ⟨s, hfind, hps, List.any_eq_true.2 ⟨s, hs, hps⟩, fun id => ?_⟩
    rw [find?_change hf]
    by_cases hid : id = s.id
    · subst hid
      simp [hfind, hps]
    · rw [if_neg hid]
      cases hother : t.find? id with
      | none => rfl
      | some r =>
        have hr : ¬ p r = true := by
          intro hpr
          rw [hp.eq (mem_of_find? hother) hs hpr hps] at hother
          exact hid (id_of_find? hother).symm
        simp [hr]
  · have hnone : ∀ s ∈ t.rows, p s = false := by simpa using hany
    refine .inr ⟨hnone, ?_⟩
    rw [change, map_if_of_forall_not f hnone]
    have hfalse : t.rows.any p = false := by simpa using hnone
    rw [hfalse]

theorem Distinct.filter {rows : List Session} (h : Distinct rows) (p : Session → Bool) :
    Distinct (rows.filter p) where
  ids := h.ids.filter p
  keys := h.keys.filter p

theorem find?_filter (h : Distinct t.rows) (p : Session → Bool) (id : SessionId) :
    find? { t with rows := t.rows.filter p } id = (t.find? id).filter p := by
  ext s
  rw [find?_eq_some_iff (h.filter p), Option.filter_eq_some_iff, find?_eq_some_iff h,
    List.mem_filter]
  tauto

theorem find?_delete (t : SessionTable) (id other : SessionId) :
    (t.delete id).2.find? other = if other = id then none else t.find? other := by
  rw [delete_eq]
  by_cases hother : other = id
  · subst hother
    simp [find?]
  · rw [if_neg hother, find?, find?, List.find?_filter]
    congr 1
    funext s
    by_cases hs : s.id = other
    · simp [hs, hother]
    · simp [hs]

theorem insertPending_of_fresh {key : String} (h : ∀ s ∈ t.rows, s.streamKey ≠ key)
    (course : CourseId) (now : Timestamp) :
    t.insertPending course key now =
      (.ok (Session.pending ⟨t.lastId + 1⟩ course key now),
        ⟨t.lastId + 1, t.rows ++ [Session.pending ⟨t.lastId + 1⟩ course key now]⟩) := by
  have hany : ¬ (t.rows.any fun s => s.streamKey == key) = true := by simpa using h
  rw [insertPending, if_neg hany]

theorem insertPending_of_taken {key : String} (h : ∃ s ∈ t.rows, s.streamKey = key)
    (course : CourseId) (now : Timestamp) :
    t.insertPending course key now = (.error duplicateKey, t) := by
  have hany : (t.rows.any fun s => s.streamKey == key) = true := by simpa using h
  rw [insertPending, if_pos hany]

end SessionTable

end LiveLesson
