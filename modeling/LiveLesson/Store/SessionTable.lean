import LiveLesson.Session.Basic
import LiveLesson.Store.Error

/-!
The sessions that are kept, in the order in which they came. Identifiers count up from one and are
not used again; two sessions never share a stream key; a status changes only from the one that the
transition names.
-/

namespace LiveLesson

/-- The first element that satisfies `p` changed by `f`; `none` if there is no such element. -/
def updateFirst {α : Type} (p : α → Bool) (f : α → α) : List α → Option (List α)
  | [] => none
  | a :: as => if p a then some (f a :: as) else (updateFirst p f as).map (a :: ·)

structure SessionTable where
  /-- The last identifier given out. -/
  lastId : Int
  rows : List Session
  deriving DecidableEq, Repr

namespace SessionTable

def empty : SessionTable := ⟨0, []⟩

def duplicateKey : StoreError := .protocol "duplicate stream key"

def insertPending (t : SessionTable) (course : CourseId) (key : String) (now : Timestamp) :
    Except StoreError Session × SessionTable :=
  if t.rows.any fun s => s.streamKey == key then (.error duplicateKey, t)
  else
    let s := Session.pending ⟨t.lastId + 1⟩ course key now
    (.ok s, ⟨t.lastId + 1, t.rows ++ [s]⟩)

def find? (t : SessionTable) (id : SessionId) : Option Session := t.rows.find? fun s => s.id == id

/-- Replaces the rows if there are new ones, and says whether there were. -/
def replace (t : SessionTable) : Option (List Session) → Bool × SessionTable
  | some rows => (true, { t with rows := rows })
  | none => (false, t)

/-- Notes that the media server accepted the stream, once. -/
def markProvisioned (t : SessionTable) (id : SessionId) (now : Timestamp) : Bool × SessionTable :=
  t.replace <| updateFirst (fun s => s.id == id && s.provisionedAt.isNone)
    (fun s => { s with provisionedAt := some now }) t.rows

def transition (t : SessionTable) (isMeant : Session → Bool) (tr : Transition) (now : Timestamp) :
    Bool × SessionTable :=
  t.replace <| updateFirst (fun s => isMeant s && s.status == tr.source)
    (fun s => s.after tr now) t.rows

def transitionById (t : SessionTable) (id : SessionId) (tr : Transition) (now : Timestamp) :
    Bool × SessionTable :=
  t.transition (fun s => s.id == id) tr now

def transitionByKey (t : SessionTable) (key : String) (tr : Transition) (now : Timestamp) :
    Bool × SessionTable :=
  t.transition (fun s => s.streamKey == key) tr now

def delete (t : SessionTable) (id : SessionId) : Bool × SessionTable :=
  let kept := t.rows.filter fun s => s.id != id
  (kept.length != t.rows.length, { t with rows := kept })

/-- A session that waits for its stream since before the cutoff. -/
def isStale (cutoff : Timestamp) (s : Session) : Bool :=
  s.status == .pending && s.provisionedAt.isNone && decide (s.createdAt < cutoff)

def deleteStale (t : SessionTable) (cutoff : Timestamp) : Nat × SessionTable :=
  let kept := t.rows.filter fun s => !isStale cutoff s
  (t.rows.length - kept.length, { t with rows := kept })

end SessionTable

theorem updateFirst_eq_none {α : Type} {p : α → Bool} {f : α → α} {as : List α} :
    updateFirst p f as = none ↔ ∀ a ∈ as, p a = false := by
  induction as with
  | nil => simp [updateFirst]
  | cons a as ih => cases h : p a <;> simp [updateFirst, h, ih]

end LiveLesson
