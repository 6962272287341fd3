import LiveLesson.Store.QuizTable
import LiveLesson.Store.SessionTable
import LiveLesson.Url.Error

/-!
What the service asks of the world, one call at a time. A program is a tree: it ends with a result,
writes a log event, or makes a call and goes on with the outcome. Nothing happens between two calls,
so whatever runs programs side by side interleaves their calls.
-/

namespace LiveLesson

inductive MediaError where
  /-- It was not reached, or its answer could not be followed. -/
  | request (detail : String)
  | rejected (status : Nat) (body : String)
  | invalidUrl (e : UrlError)
  deriving DecidableEq, Repr

def MediaError.text : MediaError → String
  | .request detail => "request to streaming backend failed: " ++ detail
  | .rejected status body =>
    "streaming backend rejected the request with status " ++ toString status ++ ": " ++ body
  | .invalidUrl e => "invalid streaming backend url: " ++ e.message

inductive Call where
  | insertPending (course : CourseId) (key : String)
  | findSession (id : SessionId)
  | markProvisioned (id : SessionId)
  | transitionById (id : SessionId) (t : Transition)
  | transitionByKey (key : String) (t : Transition)
  | deleteSession (id : SessionId)
  | createQuestion (q : NewQuestion)
  | findQuestion (course : CourseId) (id : QuestionId)
  | insertAnswer (a : NewAnswer)
  | tally (id : QuestionId)
  | checkDatabase
  | provision (key : String)
  deriving DecidableEq, Repr

namespace Call

def Answer : Call → Type
  | insertPending .. => Session
  | findSession _ => Option Session
  | markProvisioned _ => Bool
  | transitionById .. => Bool
  | transitionByKey .. => Bool
  | deleteSession _ => Bool
  | createQuestion _ => Question
  | findQuestion .. => Option Question
  | insertAnswer _ => Bool
  | tally _ => Option Tally
  | checkDatabase => Unit
  | provision _ => Unit

def Failure : Call → Type
  | provision _ => MediaError
  | _ => StoreError

abbrev Outcome (c : Call) : Type := Except c.Failure c.Answer

end Call

inductive LogLevel where
  | error
  | warn
  | info
  | debug
  deriving DecidableEq, Repr

structure LogEvent where
  level : LogLevel
  message : String
  fields : List (String × Json)

inductive Program (α : Type) : Type where
  | done (a : α)
  | log (event : LogEvent) (next : Program α)
  | call (c : Call) (next : c.Outcome → Program α)

namespace Program

variable {α β σ : Type}

def bind : Program α → (α → Program β) → Program β
  | .done a, f => f a
  | .log e p, f => .log e (p.bind f)
  | .call c k, f => .call c fun o => (k o).bind f

instance : Monad Program where
  pure := .done
  bind := bind

@[simp] theorem done_bind (a : α) (f : α → Program β) : (Program.done a >>= f) = f a := rfl

@[simp] theorem log_bind (e : LogEvent) (p : Program α) (f : α → Program β) :
    (Program.log e p >>= f) = .log e (p >>= f) := rfl

@[simp] theorem call_bind (c : Call) (k : c.Outcome → Program α) (f : α → Program β) :
    (Program.call c k >>= f) = .call c fun o => k o >>= f := rfl

def emit (e : LogEvent) : Program Unit := .log e (.done ())

def ask (c : Call) : Program c.Outcome := .call c .done

end Program

/-- Answers calls and keeps a state. -/
abbrev Handler (σ : Type) : Type := (c : Call) → σ → c.Outcome × σ

structure Trace (α σ : Type) where
  result : α
  state : σ
  calls : List Call
  logs : List LogEvent

/-- Runs a program to its end, every call answered at once. -/
def Program.run {α σ : Type} (h : Handler σ) : Program α → σ → Trace α σ
  | .done a, s => ⟨a, s, [], []⟩
  | .log e p, s =>
    let t := p.run h s
    { t with logs := e :: t.logs }
  | .call c k, s =>
    let (o, s) := h c s
    let t := (k o).run h s
    { t with calls := c :: t.calls }

end LiveLesson
