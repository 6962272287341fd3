import LiveLesson.Service.Operation
import LiveLesson.Service.Tables

/-!
Operations side by side. In each turn one of them makes its next call, so a run is fixed by the
order of the turns and by what each call meets. Between the turns stale sessions may be cleaned up.
What keeps the sessions is a parameter, so that the same run can be made over the tables and over a
database.
-/

namespace LiveLesson

structure Exchange where
  call : Call
  outcome : call.Outcome

/-- What answers calls and can be cleaned up. -/
structure World (σ : Type) where
  answer : Tables.Surroundings → Handler σ
  cleanUp : Timestamp → σ → σ

def Tables.world : World Tables where
  answer := Tables.answer
  cleanUp cutoff t := { t with sessions := (t.sessions.deleteStale cutoff).2 }

namespace Program

variable {α σ : Type}

def next? : Program α → Option ((c : Call) × (c.Outcome → Program α))
  | .done _ => none
  | .log _ p => p.next?
  | .call c k => some ⟨c, k⟩

def result? : Program α → Option α
  | .done a => some a
  | .log _ p => p.result?
  | .call _ _ => none

theorem run_of_next? (h : Handler σ) {p : Program α} {c : Call} {k : c.Outcome → Program α}
    (hp : p.next? = some ⟨c, k⟩) (s : σ) :
    (p.run h s).result = ((k (h c s).1).run h (h c s).2).result ∧
      (p.run h s).state = ((k (h c s).1).run h (h c s).2).state := by
  induction p with
  | done a => cases hp
  | log e p ih => exact ih hp
  | call c' k' => cases hp; exact ⟨rfl, rfl⟩

theorem result?_eq_some (h : Handler σ) {p : Program α} {a : α} (s : σ) (ha : p.result? = some a) :
    (p.run h s).result = a ∧ (p.run h s).state = s := by
  induction p with
  | done b => exact ⟨Option.some.inj ha, rfl⟩
  | log e p ih => exact ih ha
  | call c k ih => cases ha

end Program

structure Process where
  operation : Operation
  rest : Program Operation.Outcome

def Process.begin (settings : PlaybackSettings) (o : Operation) : Process := ⟨o, o.program settings⟩

inductive Turn where
  | call (process : Nat) (around : Tables.Surroundings)
  | cleanUp (cutoff : Timestamp)

structure Event (σ : Type) where
  before : σ
  after : σ
  /-- The call that was made, under the number of the process that made it. -/
  exchange : Option (Nat × Exchange)
  /-- The operation that ended in this turn, with its outcome. -/
  ended : Option (Operation × Operation.Outcome)

structure System (σ : Type) where
  state : σ
  processes : List Process

namespace System

variable {σ : Type}

def begin (settings : PlaybackSettings) (operations : List Operation) (s : σ) : System σ :=
  ⟨s, operations.map (Process.begin settings)⟩

def next? (s : System σ) (i : Nat) :
    Option (Operation × (c : Call) × (c.Outcome → Program Operation.Outcome)) :=
  s.processes[i]?.bind fun p => p.rest.next?.map (p.operation, ·)

def step (w : World σ) (s : System σ) : Turn → Event σ × System σ
  | .call i around =>
    match s.next? i with
    | none => (⟨s.state, s.state, none, none⟩, s)
    | some (operation, ⟨c, k⟩) =>
      let (o, state) := w.answer around c s.state
      (⟨s.state, state, some (i, ⟨c, o⟩), (k o).result?.map (operation, ·)⟩,
        ⟨state, s.processes.set i ⟨operation, k o⟩⟩)
  | .cleanUp cutoff =>
    let state := w.cleanUp cutoff s.state
    (⟨s.state, state, none, none⟩, { s with state := state })

theorem step_of_next?_eq_none {w : World σ} {s : System σ} {i : Nat} (h : s.next? i = none)
    (around : Tables.Surroundings) :
    s.step w (.call i around) = (⟨s.state, s.state, none, none⟩, s) := by
  simp [step, h]

theorem step_of_next?_eq_some {w : World σ} {s : System σ} {i : Nat}
    {operation : Operation} {c : Call} {k : c.Outcome → Program Operation.Outcome}
    (h : s.next? i = some (operation, ⟨c, k⟩)) (around : Tables.Surroundings) :
    s.step w (.call i around) =
      let (o, state) := w.answer around c s.state
      (⟨s.state, state, some (i, ⟨c, o⟩), (k o).result?.map (operation, ·)⟩,
        ⟨state, s.processes.set i ⟨operation, k o⟩⟩) := by
  simp [step, h]

def run (w : World σ) (s : System σ) : List Turn → List (Event σ) × System σ
  | [] => ([], s)
  | t :: turns =>
    let (e, s) := s.step w t
    let (events, s) := s.run w turns
    (e :: events, s)

end System

end LiveLesson
