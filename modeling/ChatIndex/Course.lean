/-! # Courses of requests

Work that is done by requests to somebody else, one after the other, each continued by its
answer, with log records on the way.  A `Course` says which requests there are to be, and leaves
open who answers them: it may be run against a state that answers, or be followed request by
request.

* `bind_assoc`  a course after a course after a course is grouped at will
* `run_bind`    running two courses in sequence runs the second where the first left off
-/

namespace ChatIndex

/-! ## Log records -/

/-- How much a log record matters. -/
inductive LogLevel where
  | debug
  | info
  | warn
  | error
deriving DecidableEq, Repr, Inhabited

/-- A log record: its message, and texts by name. -/
structure LogRecord where
  level : LogLevel
  message : String
  fields : List (String × String)
deriving DecidableEq, Repr, Inhabited

/-! ## Courses -/

/-- A course of requests of type `ρ` that ends in a value of type `α`. -/
inductive Course (ρ : Type) (Answer : ρ → Type) (α : Type) where
  | done (value : α)
  | call (request : ρ) (next : Answer request → Course ρ Answer α)
  | log (record : LogRecord) (next : Course ρ Answer α)

namespace Course

variable {ρ : Type} {Answer : ρ → Type} {α β γ σ : Type}

/-- Goes on with a course that depends on the value of this one. -/
def bind : Course ρ Answer α → (α → Course ρ Answer β) → Course ρ Answer β
  | .done a, f => f a
  | .call c next, f => .call c fun a => (next a).bind f
  | .log r next, f => .log r (next.bind f)

instance : Monad (Course ρ Answer) where
  pure := .done
  bind := .bind

@[simp] theorem pure_eq (a : α) : (pure a : Course ρ Answer α) = .done a := rfl

@[simp] theorem done_bind (a : α) (f : α → Course ρ Answer β) :
    (Course.done a >>= f) = f a := rfl

@[simp] theorem call_bind (c : ρ) (next : Answer c → Course ρ Answer α)
    (f : α → Course ρ Answer β) :
    (Course.call c next >>= f) = .call c fun a => next a >>= f := rfl

@[simp] theorem log_bind (r : LogRecord) (next : Course ρ Answer α)
    (f : α → Course ρ Answer β) :
    (Course.log r next >>= f) = .log r (next >>= f) := rfl

theorem bind_assoc (p : Course ρ Answer α) (f : α → Course ρ Answer β)
    (g : β → Course ρ Answer γ) :
    (p >>= f >>= g) = (p >>= fun a => f a >>= g) := by
  induction p with
  | done a => rfl
  | call c next ih => simp [ih]
  | log r next ih => simp [ih]

/-- Ending in the value changes nothing. -/
theorem bind_done (p : Course ρ Answer α) : (p >>= .done) = p := by
  induction p with
  | done a => rfl
  | call c next ih => simp [ih]
  | log r next ih => simp [ih]

instance : LawfulMonad (Course ρ Answer) :=
  .mk' _ bind_done (fun _ _ => rfl) bind_assoc

@[simp] theorem map_done (a : α) (f : α → β) :
    f <$> (Course.done a : Course ρ Answer α) = .done (f a) := rfl

@[simp] theorem map_call (c : ρ) (next : Answer c → Course ρ Answer α) (f : α → β) :
    f <$> Course.call c next = .call c fun a => f <$> next a := rfl

@[simp] theorem map_log (r : LogRecord) (next : Course ρ Answer α) (f : α → β) :
    f <$> Course.log r next = .log r (f <$> next) := rfl

/-- Makes a request. -/
def ask (c : ρ) : Course ρ Answer (Answer c) :=
  .call c .done

/-- Writes a log record. -/
def record (level : LogLevel) (message : String) (fields : List (String × String)) :
    Course ρ Answer Unit :=
  .log ⟨level, message, fields⟩ (.done ())

end Course

/-! ## Running a course -/

/-- Answers requests out of a state, which it may change. -/
abbrev Handler (ρ : Type) (Answer : ρ → Type) (σ : Type) : Type :=
  (c : ρ) → σ → Answer c × σ

/-- The outcome of a run: the value, the state it leaves, and the requests and log records on the
way, in order. -/
structure Run (ρ σ α : Type) where
  value : α
  state : σ
  calls : List ρ
  logs : List LogRecord

namespace Run

variable {ρ σ α : Type}

/-- The outcome of a run before which a request was made. -/
def afterCall (c : ρ) (r : Run ρ σ α) : Run ρ σ α :=
  { r with calls := c :: r.calls }

/-- The outcome of a run before which a log record was written. -/
def afterLog (l : LogRecord) (r : Run ρ σ α) : Run ρ σ α :=
  { r with logs := l :: r.logs }

end Run

namespace Course

variable {ρ : Type} {Answer : ρ → Type} {α β σ : Type}

/-- Runs a course. -/
def run (h : Handler ρ Answer σ) : Course ρ Answer α → σ → Run ρ σ α
  | .done a, s => ⟨a, s, [], []⟩
  | .call c next, s => ((next (h c s).1).run h (h c s).2).afterCall c
  | .log r next, s => (next.run h s).afterLog r

/-- Running two courses in sequence runs the second where the first left off. -/
theorem run_bind (h : Handler ρ Answer σ) (p : Course ρ Answer α) (f : α → Course ρ Answer β)
    (s : σ) :
    (p >>= f).run h s =
      let first := p.run h s
      let second := (f first.value).run h first.state
      ⟨second.value, second.state, first.calls ++ second.calls, first.logs ++ second.logs⟩ := by
  induction p generalizing s with
  | done a => rfl
  | call c next ih => simp [run, ih, Run.afterCall]
  | log r next ih => simp [run, ih, Run.afterLog]

end Course

end ChatIndex
