import ChatIndex.Proofs.Documents
import ChatIndex.Proofs.Handling

/-!
# Runs without faults

The reference engine together with a read model whose answers are given: no request fails on the
way, so a run has one outcome, and the equations of `Attempt.against` compute it.

* `against_bind`             an attempt after an attempt goes on from what the first one left
* `exists_ends_of_against`   a run without faults is one of the courses that an attempt can take
* `deliver_of_change`        handling an event leaves what carrying out its change leaves
-/

namespace ChatIndex

/-- The answers of a read model. -/
abbrev Answers : Type :=
  (c : ReadCall) → Except StoreError c.Value

/-- Every request is answered by the engine, and every question as given. -/
def Memory.handler (reads : Answers) : Handler Call Call.Answer Memory
  | .engine c, m => m.answer c
  | .read c, m => (reads c, m)

namespace Attempt

variable {ε α β : Type} {reads : Answers}

/-- What an attempt comes to without faults, and what it leaves of the engine. -/
def against (reads : Answers) (x : Attempt ε α) (m : Memory) : Except ε α × Memory :=
  let run := x.run.run (Memory.handler reads) m
  (run.value, run.state)

@[simp] theorem against_pure (a : α) (m : Memory) :
    against reads (pure a : Attempt ε α) m = (.ok a, m) := rfl

@[simp] theorem against_throw (e : ε) (m : Memory) :
    against reads (throw e : Attempt ε α) m = (.error e, m) := rfl

/-- An attempt after an attempt goes on from what the first one left, unless that failed. -/
theorem against_bind (x : Attempt ε α) (f : α → Attempt ε β) (m : Memory) :
    against reads (x >>= f) m =
      match against reads x m with
      | (.ok a, m') => against reads (f a) m'
      | (.error e, m') => (.error e, m') := by
  unfold against
  rw [ExceptT.run_bind, Course.run_bind]
  dsimp only
  cases (x.run.run (Memory.handler reads) m).value with
  | ok a => rfl
  | error e => rfl

/-- A request has the answer of the engine, and does what the engine does. -/
@[simp] theorem against_engine (c : EngineCall) (m : Memory) :
    against reads (engine c) m = ((m.answer c).1.mapError .engine, (m.answer c).2) := rfl

/-- A question has the answer that is given. -/
@[simp] theorem against_read (c : ReadCall) (m : Memory) :
    against reads (read c) m = ((reads c).mapError .store, m) := rfl

/-- An attempt that begins with a question goes on with a good answer. -/
theorem against_read_bind {c : ReadCall} {f : c.Value → Attempt CallError β} {value : c.Value}
    (h : reads c = .ok value) (m : Memory) :
    against reads (read c >>= f) m = against reads (f value) m := by
  rw [against_bind, against_read, h]
  rfl

/-- An attempt that begins with a request goes on with a good answer, from what the request left. -/
theorem against_engine_bind {c : EngineCall} {f : c.Value → Attempt CallError β}
    {value : c.Value} {m m' : Memory} (h : m.answer c = (.ok value, m')) :
    against reads (engine c >>= f) m = against reads (f value) m' := by
  rw [against_bind, against_engine, h]
  rfl

/-- After its last request an attempt leaves what the request does, whether it fails or not. -/
theorem against_engine_last {c : EngineCall} {a : β} (m : Memory) :
    (against reads (engine c >>= fun _ => pure a) m).2 = (m.answer c).2 := by
  rw [against_bind, against_engine]
  cases (m.answer c).1 <;> rfl

/-- A request whose failure is handed over never fails the attempt. -/
@[simp] theorem against_tryEngine (c : EngineCall) (m : Memory) :
    against reads (tryEngine c : Attempt ε _) m = (.ok (m.answer c).1, (m.answer c).2) := rfl

@[simp] theorem against_record (level : LogLevel) (message : String)
    (fields : List (String × String)) (m : Memory) :
    against reads (record level message fields : Attempt ε Unit) m = (.ok (), m) := rfl

end Attempt

/-- A run changes what is stored and nothing else. -/
theorem Memory.refused_run {α : Type} {reads : Answers} (p : Program α) (m : Memory) :
    (p.run (Memory.handler reads) m).state.refused = m.refused := by
  induction p generalizing m with
  | done a => rfl
  | call c next ih =>
    -- The first request changes nothing of this, and the rest does not either.
    refine (ih _ _).trans ?_
    cases c with
    | engine c => exact refused_answer m c
    | read c => rfl
  | log r next ih => exact ih m

/-- A run takes the engine through its exchanges. -/
theorem Memory.steps_exchanges {α : Type} {reads : Answers} (p : Program α) (m : Memory) :
    m.Steps (p.exchanges (Memory.handler reads) m) (p.run (Memory.handler reads) m).state := by
  induction p generalizing m with
  | done a => exact .nil m
  | call c next ih =>
    cases c with
    | engine c => exact .cons (.answered m c) (ih _ _)
    | read c => exact .cons (.read m c _) (ih _ _)
  | log r next ih => exact ih m

/-- What a request is answered in a run is what the engine answers. -/
theorem Memory.answer_of_mem_exchanges {α : Type} {reads : Answers} {c : EngineCall}
    {answer : Except EngineError c.Value} (p : Program α) (m : Memory)
    (h : (⟨.engine c, answer⟩ : Exchange) ∈ p.exchanges (Memory.handler reads) m) :
    ∃ m' : Memory, answer = (m'.answer c).1 := by
  induction p generalizing m with
  | done a => exact absurd h List.not_mem_nil
  | call c' next ih =>
    obtain h | h := List.mem_cons.1 h
    · obtain ⟨rfl, hanswer⟩ := Sigma.mk.inj h
      exact ⟨m, eq_of_heq hanswer⟩
    · -- The request comes later, and is answered in another state.
      exact ih _ _ h
  | log r next ih => exact ih m h

/-- An attempt without faults is one of the courses that the attempt can take. -/
theorem Attempt.exists_ends_of_against {ε α : Type} {reads : Answers} {x : Attempt ε α}
    {r : Except ε α} {m m' : Memory} (h : against reads x m = (r, m')) :
    ∃ es ls, x.run.Ends es ls r ∧ m.Steps es m' := by
  obtain ⟨rfl, rfl⟩ := Prod.mk.inj h
  exact ⟨_, _, Course.ends_exchanges (Memory.handler reads) x.run m, Memory.steps_exchanges x.run m⟩

/-! ## Deliveries -/

/-- An event, and what the read model answers while it is handled. -/
structure Delivery where
  event : RoomEvent
  reads : Answers

/-- What handling an event leaves of the engine. -/
def deliver (s : SyncSettings) (m : Memory) (d : Delivery) : Memory :=
  ((Sync.handle s d.event).run (Memory.handler d.reads) m).state

/-- Handling an event leaves what carrying out its change leaves. -/
theorem deliver_of_change {s : SyncSettings} {d : Delivery} {c : Change}
    (h : d.event.change? = .ok (some c)) (m : Memory) :
    deliver s m d = (Attempt.against d.reads (Sync.apply s c) m).2 := by
  rw [deliver, Sync.handle, h]
  dsimp only
  -- What is logged of the outcome does nothing to the engine.
  rw [Course.run_bind]
  rfl

/-- An event that asks for no change leaves all as it is. -/
theorem deliver_of_no_change {s : SyncSettings} {d : Delivery}
    (h : ∀ c, d.event.change? ≠ .ok (some c)) (m : Memory) : deliver s m d = m := by
  rw [deliver, Sync.handle]
  split
  · rfl
  · rfl
  · next c hc => exact absurd hc (h c)

/-- Handling an event leaves which ids are rejected. -/
theorem refused_deliver (s : SyncSettings) (m : Memory) (d : Delivery) :
    (deliver s m d).refused = m.refused :=
  Memory.refused_run _ m

end ChatIndex
