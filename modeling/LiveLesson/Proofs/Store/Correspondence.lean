import LiveLesson.Proofs.Store.TableHistory
import Mathlib.Data.List.Forall2
import Mathlib.Logic.Equiv.Basic

/-!
Two tables that differ in what they make up on their own: the identifiers they give out, which
correspond one to one, and the moments they note. What they are asked under corresponding
identifiers they answer alike, and they stay alike.
-/

namespace LiveLesson

/-- Which identifiers and which moments of two stores stand for each other. -/
structure Correspondence where
  ids : Equiv.Perm SessionId
  moments : Timestamp → Timestamp → Prop

variable (m : Correspondence)

structure Session.Alike (s s' : Session) : Prop where
  id : s'.id = m.ids s.id
  course : s'.course = s.course
  streamKey : s'.streamKey = s.streamKey
  status : s'.status = s.status
  startedAt : Option.Rel m.moments s.startedAt s'.startedAt
  endedAt : Option.Rel m.moments s.endedAt s'.endedAt
  provisionedAt : Option.Rel m.moments s.provisionedAt s'.provisionedAt
  createdAt : m.moments s.createdAt s'.createdAt

def SessionTable.Alike (t t' : SessionTable) : Prop := List.Forall₂ (Session.Alike m) t.rows t'.rows

section Elements

variable {α β : Type} {R : α → β → Prop} {p : α → Bool} {q : β → Bool} {as : List α} {bs : List β}

theorem any_eq_of_forall₂ (hpq : ∀ {a b}, R a b → p a = q b) (h : List.Forall₂ R as bs) :
    as.any p = bs.any q := by
  induction h with
  | nil => rfl
  | cons hab _ ih => rw [List.any_cons, List.any_cons, hpq hab, ih]

theorem find?_rel (hpq : ∀ {a b}, R a b → p a = q b) (h : List.Forall₂ R as bs) :
    Option.Rel R (as.find? p) (bs.find? q) := by
  induction h with
  | nil => exact .none
  | @cons a b _ _ hab _ ih =>
    rw [List.find?_cons, List.find?_cons, ← hpq hab]
    cases p a with
    | true => exact .some hab
    | false => exact ih

theorem filter_rel (hpq : ∀ {a b}, R a b → p a = q b) (h : List.Forall₂ R as bs) :
    List.Forall₂ R (as.filter p) (bs.filter q) :=
  List.rel_filter (fun _ _ hab => by simp [hpq hab]) h

theorem map_rel {γ δ : Type} {S : γ → δ → Prop} {f : α → γ} {g : β → δ}
    (hfg : ∀ {a b}, R a b → S (f a) (g b)) {o : Option α} {o' : Option β} (h : Option.Rel R o o') :
    Option.Rel S (o.map f) (o'.map g) := by
  cases h with
  | none => exact .none
  | some hab => exact .some (hfg hab)

theorem rel_cases {o : Option α} {o' : Option β} (h : Option.Rel R o o') :
    (o = none ∧ o' = none) ∨ ∃ a b, o = some a ∧ o' = some b ∧ R a b := by
  cases h with
  | none => exact .inl ⟨rfl, rfl⟩
  | some hab => exact .inr ⟨_, _, rfl, rfl, hab⟩

theorem isNone_eq_of_rel {o : Option α} {o' : Option β} (h : Option.Rel R o o') :
    o.isNone = o'.isNone := by
  cases h <;> rfl

theorem updateFirst_rel {f : α → α} {g : β → β} (hpq : ∀ {a b}, R a b → p a = q b)
    (hfg : ∀ {a b}, R a b → R (f a) (g b)) (h : List.Forall₂ R as bs) :
    Option.Rel (List.Forall₂ R) (updateFirst p f as) (updateFirst q g bs) := by
  induction h with
  | nil => exact .none
  | @cons a b _ _ hab hrest ih =>
    rw [updateFirst, updateFirst, ← hpq hab]
    cases p a with
    | true => exact .some (.cons (hfg hab) hrest)
    | false => exact map_rel (fun hrest => .cons hab hrest) ih

theorem getElem?_rel (h : List.Forall₂ R as bs) (i : Nat) : Option.Rel R as[i]? bs[i]? := by
  induction h generalizing i with
  | nil => exact .none
  | cons hab _ ih =>
    cases i with
    | zero => exact .some hab
    | succ i => exact ih i

theorem set_rel (h : List.Forall₂ R as bs) (i : Nat) {a : α} {b : β} (hab : R a b) :
    List.Forall₂ R (as.set i a) (bs.set i b) := by
  induction h generalizing i with
  | nil => exact .nil
  | cons hcd hrest ih =>
    cases i with
    | zero => exact .cons hab hrest
    | succ i => exact .cons hcd (ih i)

end Elements

namespace Session.Alike

variable {m} {s s' : Session} {now now' : Timestamp}

theorem beq_id (h : s.Alike m s') (id : SessionId) : (s.id == id) = (s'.id == m.ids id) := by
  rw [h.id, Bool.eq_iff_iff, beq_iff_eq, beq_iff_eq, m.ids.injective.eq_iff]

theorem beq_streamKey (h : s.Alike m s') (key : String) :
    (s.streamKey == key) = (s'.streamKey == key) := by
  rw [h.streamKey]

theorem provisioned (h : s.Alike m s') (hnow : m.moments now now') :
    Session.Alike m { s with provisionedAt := some now } { s' with provisionedAt := some now' } :=
  { h with provisionedAt := .some hnow }

theorem after (h : s.Alike m s') (t : Transition) (hnow : m.moments now now') :
    Session.Alike m (s.after t now) (s'.after t now') := by
  cases t with
  | start => exact { h with status := rfl, startedAt := .some hnow }
  | finish => exact { h with status := rfl, endedAt := .some hnow }

theorem pending {id id' : SessionId} (hid : id' = m.ids id) (course : CourseId) (key : String)
    (hnow : m.moments now now') :
    Session.Alike m (Session.pending id course key now) (Session.pending id' course key now') :=
  ⟨hid, rfl, rfl, rfl, .none, .none, .none, hnow⟩

end Session.Alike

namespace SessionTable.Alike

variable {m} {t t' : SessionTable} {now now' : Timestamp}

theorem find? (h : t.Alike m t') (id : SessionId) :
    Option.Rel (Session.Alike m) (t.find? id) (t'.find? (m.ids id)) :=
  find?_rel (fun hs => hs.beq_id id) h

theorem replace (h : t.Alike m t') {o o' : Option (List Session)}
    (ho : Option.Rel (List.Forall₂ (Session.Alike m)) o o') :
    (t'.replace o').1 = (t.replace o).1 ∧ (t.replace o).2.Alike m (t'.replace o').2 := by
  cases ho with
  | none => exact ⟨rfl, h⟩
  | some hrows => exact ⟨rfl, hrows⟩

theorem markProvisioned (h : t.Alike m t') (id : SessionId) (hnow : m.moments now now') :
    (t'.markProvisioned (m.ids id) now').1 = (t.markProvisioned id now).1 ∧
      (t.markProvisioned id now).2.Alike m (t'.markProvisioned (m.ids id) now').2 := by
  refine h.replace (updateFirst_rel (fun hs => ?_) (fun hs => hs.provisioned hnow) h)
  rw [hs.beq_id id, isNone_eq_of_rel hs.provisionedAt]

theorem transition (h : t.Alike m t') {p q : Session → Bool}
    (hpq : ∀ {s s'}, Session.Alike m s s' → p s = q s') (tr : Transition)
    (hnow : m.moments now now') :
    (t'.transition q tr now').1 = (t.transition p tr now).1 ∧
      (t.transition p tr now).2.Alike m (t'.transition q tr now').2 :=
  h.replace (updateFirst_rel (fun hs => by rw [hpq hs, hs.status]) (fun hs => hs.after tr hnow) h)

theorem delete (h : t.Alike m t') (id : SessionId) :
    (t'.delete (m.ids id)).1 = (t.delete id).1 ∧
    (t.delete id).2.Alike m (t'.delete (m.ids id)).2 := by
  rw [delete_eq, delete_eq]
  exact ⟨(any_eq_of_forall₂ (fun hs => hs.beq_id id) h).symm,
    filter_rel (fun hs => congrArg not (hs.beq_id id)) h⟩

theorem taken (h : t.Alike m t') (key : String) :
    (t'.rows.any fun s => s.streamKey == key) = t.rows.any fun s => s.streamKey == key :=
  (any_eq_of_forall₂ (fun hs => hs.beq_streamKey key) h).symm

end SessionTable.Alike

end LiveLesson
