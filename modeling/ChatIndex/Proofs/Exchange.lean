import ChatIndex.Program

/-!
# Exchanges

What a course does against somebody who may answer anything is told by its exchanges: the
requests it makes, in order, each with the answer it got.  `p.Ends es ls a` says that the course
`p`, answered as in `es`, makes exactly these requests, writes the log records `ls` and ends in
the value `a`.

* `ends_bind`            a course after a course has the exchanges of both, one after the other
* `ends_exchanges`       a run against a handler is such a course of exchanges
* `follow?_eq_some_iff`  whether exchanges are those of a course can be computed
* `ends_engine_bind`     an attempt goes on after an answer and ends at a failure
* `Attempt.Relays`       nothing is recovered from: one failure fails the whole attempt
* `Attempt.Halts`        nothing is asked after a failure
-/

namespace ChatIndex

/-- A list in which something fails has the failure of one of its items. -/
theorem exists_of_mapM_eq_error {ε α β : Type} {f : α → Except ε β} {e : ε} {xs : List α}
    (h : xs.mapM f = .error e) : ∃ x ∈ xs, f x = .error e := by
  induction xs with
  | nil => cases h
  | cons x xs ih =>
    rw [List.mapM_cons] at h
    -- Either the first item fails, or the failure comes later.
    cases hx : f x with
    | error failure =>
      rw [hx] at h
      cases h
      exact ⟨x, List.mem_cons_self, hx⟩
    | ok y =>
      rw [hx] at h
      cases hxs : xs.mapM f with
      | error failure =>
        rw [hxs] at h
        cases h
        obtain ⟨x', hmem, hx'⟩ := ih hxs
        exact ⟨x', List.mem_cons_of_mem x hmem, hx'⟩
      | ok ys =>
        rw [hxs] at h
        cases h

namespace Course

variable {ρ : Type} {Answer : ρ → Type} {α β σ : Type}

/-- With these exchanges and log records the course ends in this value. -/
inductive Ends : Course ρ Answer α → List ((c : ρ) × Answer c) → List LogRecord → α → Prop
  | done (a : α) : Ends (.done a) [] [] a
  | call {c : ρ} {next : Answer c → Course ρ Answer α} {es ls a} (answer : Answer c)
      (rest : Ends (next answer) es ls a) : Ends (.call c next) (⟨c, answer⟩ :: es) ls a
  | log {r : LogRecord} {next : Course ρ Answer α} {es ls a} (rest : Ends next es ls a) :
      Ends (.log r next) es (r :: ls) a

/-! ## One equation per constructor -/

/-- A finished course asks nothing more. -/
@[simp] theorem ends_done {a b : α} {es : List ((c : ρ) × Answer c)} {ls : List LogRecord} :
    (Course.done a).Ends es ls b ↔ es = [] ∧ ls = [] ∧ b = a := by
  constructor
  · intro h
    cases h
    exact ⟨rfl, rfl, rfl⟩
  · rintro ⟨rfl, rfl, rfl⟩
    exact .done b

/-- A course that begins with a request goes on with the answer. -/
@[simp] theorem ends_call {c : ρ} {next : Answer c → Course ρ Answer α} {b : α}
    {es : List ((c : ρ) × Answer c)} {ls : List LogRecord} :
    (Course.call c next).Ends es ls b ↔
      ∃ answer es', es = ⟨c, answer⟩ :: es' ∧ (next answer).Ends es' ls b := by
  constructor
  · intro h
    cases h with
    | call answer rest => exact ⟨answer, _, rfl, rest⟩
  · rintro ⟨answer, es', rfl, rest⟩
    exact .call answer rest

/-- A log record is no exchange. -/
@[simp] theorem ends_log {r : LogRecord} {next : Course ρ Answer α} {b : α}
    {es : List ((c : ρ) × Answer c)} {ls : List LogRecord} :
    (Course.log r next).Ends es ls b ↔ ∃ ls', ls = r :: ls' ∧ next.Ends es ls' b := by
  constructor
  · intro h
    cases h with
    | log rest => exact ⟨_, rfl, rest⟩
  · rintro ⟨ls', rfl, rest⟩
    exact .log rest

/-- The exchanges of a course after a course are those of both, one after the other. -/
theorem ends_bind {p : Course ρ Answer α} {f : α → Course ρ Answer β} {b : β}
    {es : List ((c : ρ) × Answer c)} {ls : List LogRecord} :
    (p >>= f).Ends es ls b ↔
      ∃ a es₁ es₂ ls₁ ls₂, p.Ends es₁ ls₁ a ∧ (f a).Ends es₂ ls₂ b ∧
        es = es₁ ++ es₂ ∧ ls = ls₁ ++ ls₂ := by
  constructor
  · -- What the first course still has to ask comes first, so its shape leads.
    intro h
    induction p generalizing es ls with
    | done a => exact ⟨a, [], es, [], ls, .done a, h, rfl, rfl⟩
    | call c next ih =>
      rw [call_bind, ends_call] at h
      obtain ⟨answer, es', rfl, h⟩ := h
      obtain ⟨a, es₁, es₂, ls₁, ls₂, h₁, h₂, rfl, rfl⟩ := ih answer h
      exact ⟨a, _, es₂, ls₁, ls₂, .call answer h₁, h₂, rfl, rfl⟩
    | log r next ih =>
      rw [log_bind, ends_log] at h
      obtain ⟨ls', rfl, h⟩ := h
      obtain ⟨a, es₁, es₂, ls₁, ls₂, h₁, h₂, rfl, rfl⟩ := ih h
      exact ⟨a, es₁, es₂, _, ls₂, .log h₁, h₂, rfl, rfl⟩
  · rintro ⟨a, es₁, es₂, ls₁, ls₂, h₁, h₂, rfl, rfl⟩
    -- Here the exchanges of the first course are given.
    induction h₁ with
    | done a => exact h₂
    | call answer _ ih => exact .call answer (ih h₂)
    | log _ ih => exact .log (ih h₂)

/-- Doing something with the value of a course changes no exchange. -/
theorem ends_map {p : Course ρ Answer α} {f : α → β} {b : β}
    {es : List ((c : ρ) × Answer c)} {ls : List LogRecord} :
    (f <$> p).Ends es ls b ↔ ∃ a, p.Ends es ls a ∧ b = f a := by
  rw [map_eq_pure_bind, ends_bind]
  constructor
  · rintro ⟨a, es₁, es₂, ls₁, ls₂, h₁, h₂, rfl, rfl⟩
    obtain ⟨rfl, rfl, rfl⟩ := ends_done.1 h₂
    exact ⟨a, by simpa using h₁, rfl⟩
  · rintro ⟨a, h, rfl⟩
    exact ⟨a, es, [], ls, [], h, .done _, by simp, by simp⟩

/-! ## Exchanges with a handler -/

/-- The exchanges of a run. -/
def exchanges (h : Handler ρ Answer σ) : Course ρ Answer α → σ → List ((c : ρ) × Answer c)
  | .done _, _ => []
  | .call c next, s => ⟨c, (h c s).1⟩ :: (next (h c s).1).exchanges h (h c s).2
  | .log _ next, s => next.exchanges h s

/-- A run against a handler ends with its exchanges. -/
theorem ends_exchanges (h : Handler ρ Answer σ) (p : Course ρ Answer α) (s : σ) :
    p.Ends (p.exchanges h s) (p.run h s).logs (p.run h s).value := by
  induction p generalizing s with
  | done a => exact .done a
  | call c next ih => exact .call _ (ih _ _)
  | log r next ih => exact .log (ih s)

/-- The requests of a run are those of its exchanges. -/
theorem calls_run (h : Handler ρ Answer σ) (p : Course ρ Answer α) (s : σ) :
    (p.run h s).calls = (p.exchanges h s).map (·.1) := by
  induction p generalizing s with
  | done a => rfl
  | call c next ih => exact congrArg (c :: ·) (ih _ _)
  | log r next ih => exact ih s

/-- A run that asks for nothing leaves the state as it is. -/
theorem state_run_of_exchanges_eq_nil {h : Handler ρ Answer σ} {p : Course ρ Answer α} {s : σ}
    (hnil : p.exchanges h s = []) : (p.run h s).state = s := by
  induction p with
  | done a => rfl
  | call c next ih => cases hnil
  | log r next ih => exact ih hnil

/-- The same of a course without a value. -/
theorem ends_exchanges_unit (h : Handler ρ Answer σ) (p : Course ρ Answer Unit) (s : σ) :
    p.Ends (p.exchanges h s) (p.run h s).logs () :=
  ends_exchanges h p s

/-! ## Following exchanges -/

/-- Goes along a course with the answers of given exchanges: the value it ends in, if the requests
are those of the exchanges. -/
def follow? [DecidableEq ρ] : Course ρ Answer α → List ((c : ρ) × Answer c) → Option α
  | .done a, [] => some a
  | .done _, _ :: _ => none
  | .call _ _, [] => none
  | .call c next, ⟨c', answer⟩ :: es => if h : c' = c then (next (h ▸ answer)).follow? es else none
  | .log _ next, es => next.follow? es

/-- A course can be followed along exchanges just if they are ones that it ends with. -/
theorem follow?_eq_some_iff [DecidableEq ρ] {p : Course ρ Answer α}
    {es : List ((c : ρ) × Answer c)} {a : α} :
    p.follow? es = some a ↔ ∃ ls, p.Ends es ls a := by
  induction p generalizing es with
  | done b =>
    cases es with
    | nil => simp [follow?, ends_done, eq_comm]
    | cons e es => simp [follow?, ends_done]
  | call c next ih =>
    cases es with
    | nil => simp [follow?, ends_call]
    | cons e es =>
      obtain ⟨c', answer⟩ := e
      -- The requests have to agree before their answers can be compared.
      by_cases hc : c' = c
      · cases hc
        simp only [follow?, ends_call, dif_pos, ih]
        constructor
        · rintro ⟨ls, h⟩
          exact ⟨ls, answer, es, rfl, h⟩
        · rintro ⟨ls, answer', es', h, hends⟩
          cases h
          exact ⟨ls, hends⟩
      · simp [follow?, ends_call, hc]
  | log r next ih =>
    simp only [follow?, ih, ends_log]
    constructor
    · rintro ⟨ls, h⟩
      exact ⟨r :: ls, ls, rfl, h⟩
    · rintro ⟨-, ls, -, h⟩
      exact ⟨ls, h⟩

end Course

/-! ## Attempts -/

/-- A request to either side with the answer it got. -/
abbrev Exchange : Type :=
  (c : Call) × Call.Answer c

/-- The requests to the engine among exchanges. -/
def engineCalls : List Exchange → List EngineCall
  | [] => []
  | ⟨.engine c, _⟩ :: es => c :: engineCalls es
  | ⟨.read _, _⟩ :: es => engineCalls es

/-- The requests are those of the exchanges. -/
theorem mem_engineCalls_iff {c : EngineCall} {es : List Exchange} :
    c ∈ engineCalls es ↔ ∃ answer, (⟨.engine c, answer⟩ : Exchange) ∈ es := by
  induction es with
  | nil => simp [engineCalls]
  | cons e es ih =>
    obtain ⟨c' | c', answer'⟩ := e
    · simp only [engineCalls, List.mem_cons, ih, exists_or]
      refine or_congr_left ⟨?_, ?_⟩
      · rintro rfl
        exact ⟨answer', rfl⟩
      · rintro ⟨answer, h⟩
        cases h
        rfl
    · -- A question to the read model is no request to the engine.
      simp only [engineCalls, List.mem_cons, ih, exists_or]
      refine (or_iff_right ?_).symm
      rintro ⟨answer, h⟩
      cases h

/-- The requests of two stretches are those of the first and then those of the second. -/
theorem engineCalls_append (es₁ es₂ : List Exchange) :
    engineCalls (es₁ ++ es₂) = engineCalls es₁ ++ engineCalls es₂ := by
  induction es₁ with
  | nil => rfl
  | cons e es₁ ih =>
    obtain ⟨c, answer⟩ := e
    cases c with
    | engine c => exact congrArg (c :: ·) ih
    | read c => exact ih

namespace Attempt

variable {ε α β : Type} {es : List Exchange} {ls : List LogRecord}

@[simp] theorem ends_pure {a : α} {r : Except ε α} :
    (pure a : Attempt ε α).run.Ends es ls r ↔ es = [] ∧ ls = [] ∧ r = .ok a :=
  Course.ends_done

@[simp] theorem ends_throw {e : ε} {r : Except ε α} :
    (throw e : Attempt ε α).run.Ends es ls r ↔ es = [] ∧ ls = [] ∧ r = .error e :=
  Course.ends_done

/-- An attempt after an attempt: the first one failed, or the second one was made. -/
theorem ends_bind {x : Attempt ε α} {f : α → Attempt ε β} {r : Except ε β} :
    (x >>= f).run.Ends es ls r ↔
      (∃ e, x.run.Ends es ls (.error e) ∧ r = .error e) ∨
      ∃ a es₁ es₂ ls₁ ls₂, x.run.Ends es₁ ls₁ (.ok a) ∧ (f a).run.Ends es₂ ls₂ r ∧
        es = es₁ ++ es₂ ∧ ls = ls₁ ++ ls₂ := by
  rw [ExceptT.run_bind, Course.ends_bind]
  constructor
  · rintro ⟨a, es₁, es₂, ls₁, ls₂, h₁, h₂, rfl, rfl⟩
    -- The first attempt ends in a failure, or hands its value on.
    cases a with
    | error e =>
      obtain ⟨rfl, rfl, rfl⟩ := Course.ends_done.1 h₂
      exact .inl ⟨e, by simpa using h₁, rfl⟩
    | ok a => exact .inr ⟨a, es₁, es₂, ls₁, ls₂, h₁, h₂, rfl, rfl⟩
  · rintro (⟨e, h, rfl⟩ | ⟨a, es₁, es₂, ls₁, ls₂, h₁, h₂, rfl, rfl⟩)
    · exact ⟨.error e, es, [], ls, [], h, .done _, by simp, by simp⟩
    · exact ⟨.ok a, es₁, es₂, ls₁, ls₂, h₁, h₂, rfl, rfl⟩

/-- An attempt that begins with a request ends at its failure or goes on with its answer. -/
theorem ends_engine_bind {c : EngineCall} {f : c.Value → Attempt CallError β}
    {r : Except CallError β} :
    (engine c >>= f).run.Ends es ls r ↔
      (∃ e, es = [⟨.engine c, .error e⟩] ∧ ls = [] ∧ r = .error (.engine e)) ∨
      ∃ value es', es = ⟨.engine c, .ok value⟩ :: es' ∧ (f value).run.Ends es' ls r := by
  rw [ExceptT.run_bind]
  -- One call, and then the course that its answer leads to.
  change (Course.call (Call.engine c) _).Ends es ls r ↔ _
  rw [Course.ends_call]
  constructor
  · rintro ⟨answer, es', rfl, h⟩
    cases answer with
    | error e =>
      obtain ⟨rfl, rfl, rfl⟩ := Course.ends_done.1 h
      exact .inl ⟨e, rfl, rfl, rfl⟩
    | ok value => exact .inr ⟨value, es', rfl, h⟩
  · rintro (⟨e, rfl, rfl, rfl⟩ | ⟨value, es', rfl, h⟩)
    · exact ⟨.error e, [], rfl, .done _⟩
    · exact ⟨.ok value, es', rfl, h⟩

/-- An attempt that begins with a question ends at its failure or goes on with its answer. -/
theorem ends_read_bind {c : ReadCall} {f : c.Value → Attempt CallError β}
    {r : Except CallError β} :
    (read c >>= f).run.Ends es ls r ↔
      (∃ e, es = [⟨.read c, .error e⟩] ∧ ls = [] ∧ r = .error (.store e)) ∨
      ∃ value es', es = ⟨.read c, .ok value⟩ :: es' ∧ (f value).run.Ends es' ls r := by
  rw [ExceptT.run_bind]
  change (Course.call (Call.read c) _).Ends es ls r ↔ _
  rw [Course.ends_call]
  constructor
  · rintro ⟨answer, es', rfl, h⟩
    cases answer with
    | error e =>
      obtain ⟨rfl, rfl, rfl⟩ := Course.ends_done.1 h
      exact .inl ⟨e, rfl, rfl, rfl⟩
    | ok value => exact .inr ⟨value, es', rfl, h⟩
  · rintro (⟨e, rfl, rfl, rfl⟩ | ⟨value, es', rfl, h⟩)
    · exact ⟨.error e, [], rfl, .done _⟩
    · exact ⟨.ok value, es', rfl, h⟩

/-- An attempt that begins with a request hands over the answer, a failure too. -/
theorem ends_tryEngine_bind {c : EngineCall} {f : Except EngineError c.Value → Attempt ε β}
    {r : Except ε β} :
    (tryEngine c >>= f).run.Ends es ls r ↔
      ∃ answer es', es = ⟨.engine c, answer⟩ :: es' ∧ (f answer).run.Ends es' ls r := by
  rw [ExceptT.run_bind]
  exact Course.ends_call

/-- An attempt that begins with a course which cannot fail goes on with its value. -/
theorem ends_lift_bind {p : Program α} {f : α → Attempt ε β} {r : Except ε β} :
    (ExceptT.lift p >>= f).run.Ends es ls r ↔
      ∃ a es₁ es₂ ls₁ ls₂, p.Ends es₁ ls₁ a ∧ (f a).run.Ends es₂ ls₂ r ∧
        es = es₁ ++ es₂ ∧ ls = ls₁ ++ ls₂ := by
  rw [ExceptT.run_bind_lift, Course.ends_bind]

/-- An attempt that begins with a log record. -/
theorem ends_record_bind {level : LogLevel} {message : String}
    {fields : List (String × String)} {f : Unit → Attempt ε β} {r : Except ε β} :
    (record level message fields >>= f).run.Ends es ls r ↔
      ∃ ls', ls = ⟨level, message, fields⟩ :: ls' ∧ (f ()).run.Ends es ls' r := by
  rw [ExceptT.run_bind]
  exact Course.ends_log

end Attempt

/-! ## Attempts that recover from nothing -/

/-- Whether a request succeeded. -/
def Exchange.Succeeded (e : Exchange) : Prop :=
  ∃ value, e.2 = .ok value

theorem Exchange.succeeded_ok (c : Call) (value : c.Value) :
    Exchange.Succeeded ⟨c, .ok value⟩ :=
  ⟨value, rfl⟩

theorem Exchange.not_succeeded_error (c : Call) (e : c.Failure) :
    ¬ Exchange.Succeeded ⟨c, .error e⟩ := by
  rintro ⟨value, h⟩
  cases h

namespace Attempt

variable {ε α β : Type}

/-- An attempt that succeeds if and only if all its requests do. -/
def Strict (x : Attempt ε α) : Prop :=
  ∀ es ls r, x.run.Ends es ls r → ((∃ a, r = .ok a) ↔ ∀ e ∈ es, Exchange.Succeeded e)

/-- An attempt that recovers from no failure of its requests and fails with nothing else. -/
structure Relays (x : Attempt CallError α) : Prop where
  ok : ∀ es ls a, x.run.Ends es ls (.ok a) → ∀ e ∈ es, Exchange.Succeeded e
  error : ∀ es ls e, x.run.Ends es ls (.error e) →
    ∃ (c : Call) (failure : c.Failure), (⟨c, .error failure⟩ : Exchange) ∈ es ∧
      e = c.toCallError failure

namespace Relays

variable {x : Attempt CallError α} {f : α → Attempt CallError β}

/-- An attempt that passes every failure on succeeds just if nothing fails. -/
theorem strict (h : x.Relays) : x.Strict := by
  intro es ls r hends
  cases r with
  | ok a => exact iff_of_true ⟨a, rfl⟩ (h.ok es ls a hends)
  | error e =>
    obtain ⟨c, failure, hmem, -⟩ := h.error es ls e hends
    -- The failure is that of a request, so not all of them succeeded.
    refine iff_of_false ?_ fun hall => Exchange.not_succeeded_error c failure (hall _ hmem)
    rintro ⟨a, ha⟩
    cases ha

/-- Nothing is asked, so nothing is recovered from. -/
theorem pure (a : α) : (Pure.pure a : Attempt CallError α).Relays where
  ok es ls b h := by
    obtain ⟨rfl, -, -⟩ := ends_pure.1 h
    exact List.forall_mem_nil _
  error es ls e h := by
    obtain ⟨-, -, he⟩ := ends_pure.1 h
    cases he

/-- One request, whose failure is that of the attempt. -/
theorem ask (c : Call) : (ask c).Relays where
  ok es ls a h := by
    obtain ⟨answer, es', rfl, hdone⟩ := Course.ends_call.1 h
    obtain ⟨rfl, -, ha⟩ := Course.ends_done.1 hdone
    cases answer with
    | error failure => cases ha
    | ok value => exact List.forall_mem_singleton.2 (Exchange.succeeded_ok c value)
  error es ls e h := by
    obtain ⟨answer, es', rfl, hdone⟩ := Course.ends_call.1 h
    obtain ⟨-, -, he⟩ := Course.ends_done.1 hdone
    cases answer with
    | error failure => exact ⟨c, failure, List.mem_cons_self, Except.error.inj he⟩
    | ok value => cases he

/-- Two attempts that pass failures on do so one after the other. -/
theorem bind (hx : x.Relays) (hf : ∀ a, (f a).Relays) : (x >>= f).Relays where
  ok es ls b h := by
    obtain ⟨e, -, he⟩ | ⟨a, es₁, es₂, ls₁, ls₂, h₁, h₂, rfl, rfl⟩ := ends_bind.1 h
    · cases he
    · exact List.forall_mem_append.2 ⟨hx.ok es₁ ls₁ a h₁, (hf a).ok es₂ ls₂ b h₂⟩
  error es ls e h := by
    obtain ⟨e', h₁, he⟩ | ⟨a, es₁, es₂, ls₁, ls₂, h₁, h₂, rfl, rfl⟩ := ends_bind.1 h
    · cases he
      exact hx.error es ls e h₁
    · obtain ⟨c, failure, hmem, he⟩ := (hf a).error es₂ ls₂ e h₂
      exact ⟨c, failure, List.mem_append_right es₁ hmem, he⟩

end Relays

/-- An attempt in which a failure is the end: nothing is asked after it, and it is what the attempt
fails with. -/
def Halts (x : Attempt CallError α) : Prop :=
  ∀ before (c : Call) (failure : c.Failure) after ls r,
    x.run.Ends (before ++ ⟨c, .error failure⟩ :: after) ls r →
      after = [] ∧ r = .error (c.toCallError failure)

namespace Halts

variable {x : Attempt CallError α} {f : α → Attempt CallError β}

/-- There is no failure to go on after. -/
theorem pure (a : α) : (Pure.pure a : Attempt CallError α).Halts := by
  intro before c failure after ls r h
  exact absurd (ends_pure.1 h).1 (List.append_ne_nil_of_right_ne_nil before (List.cons_ne_nil _ _))

/-- Nothing follows the one request. -/
theorem ask (c : Call) : (ask c).Halts := by
  intro before c' failure after ls r h
  obtain ⟨answer, es, hes, hdone⟩ := Course.ends_call.1 h
  obtain ⟨rfl, -, rfl⟩ := Course.ends_done.1 hdone
  -- ⟨before', rfl, hnil⟩ := List.append_eq_cons_iff.1 hes | There is one exchange, so it is the
  -- failure and nothing stands in front of it.
  obtain ⟨rfl, hfailure⟩ | ⟨before', rfl, hnil⟩ := List.append_eq_cons_iff.1 hes
  · cases hfailure
    exact ⟨rfl, rfl⟩
  · exact absurd hnil.symm (List.append_ne_nil_of_right_ne_nil _ (List.cons_ne_nil _ _))

/-- A log record is no request. -/
theorem record (level : LogLevel) (message : String) (fields : List (String × String)) :
    (record level message fields : Attempt CallError Unit).Halts := by
  intro before c failure after ls r h
  obtain ⟨_, -, hdone⟩ := Course.ends_log.1 h
  exact absurd (Course.ends_done.1 hdone).1
    (List.append_ne_nil_of_right_ne_nil before (List.cons_ne_nil _ _))

/-- Two attempts that stop at failures do so one after the other. -/
theorem bind (hx : x.Halts) (hf : ∀ a, (f a).Halts) : (x >>= f).Halts := by
  intro before c failure after ls r h
  obtain ⟨e, h₁, rfl⟩ | ⟨a, es₁, es₂, ls₁, ls₂, h₁, h₂, hes, rfl⟩ := ends_bind.1 h
  · obtain ⟨rfl, he⟩ := hx _ _ _ _ _ _ h₁
    cases he
    exact ⟨rfl, rfl⟩
  · -- The first attempt succeeded, so the failure is one of the second.
    obtain ⟨middle, rfl, hrest⟩ | ⟨middle, rfl, rfl⟩ := List.append_eq_append_iff.1 hes
    · -- The exchanges are cut twice: between the two attempts, and at the failure.
      cases middle with
      | nil =>
        rw [List.nil_append] at hrest
        exact hf a [] c failure after ls₂ r (hrest ▸ h₂)
      | cons e middle =>
        -- Here it would be one of the first.
        rw [List.cons_append] at hrest
        obtain ⟨rfl, -⟩ := List.cons.inj hrest
        cases (hx _ _ _ _ _ _ h₁).2
    · exact hf a middle c failure after ls₂ r h₂

end Halts

end Attempt

end ChatIndex
