import ChatIndex.Proofs.Privacy
import ChatIndex.Proofs.Transitions
import Mathlib.Data.List.Forall2

/-!
# Events that fail

A change makes at most one request that writes, and makes it last, so where it fails nothing was
written.  The one exception is the encryption of a room: it removes the document of the room
before the messages, so that the room can no longer be found if the second request fails.

Here a request that fails does nothing (`Memory.AtomicSteps`).  That leaves out one thing that the
engine can do: it can reject one document of a bulk request and write the others.

* `Handling.idle_of_error`              what comes before a failure
* `Handling.atomicSteps`                an engine that rejects no ids is atomic for every change
* `failed_events_leave_indices_intact`  one failed event, and any number of them in a run
-/

namespace ChatIndex

/-! ## Requests that do nothing where they fail -/

namespace Memory

/-- What an exchange leaves of the engine, where a request that fails does nothing. -/
structure AtomicStep (m : Memory) (e : Exchange) (m' : Memory) : Prop where
  step : m.Step e m'
  atomic : ¬ e.Succeeded → m' = m

/-- What exchanges leave of the engine, one after the other, where requests that fail do
nothing. -/
inductive AtomicSteps : Memory → List Exchange → Memory → Prop
  | nil (m : Memory) : AtomicSteps m [] m
  | cons {m m₁ m' : Memory} {e : Exchange} {es : List Exchange} (step : AtomicStep m e m₁)
      (rest : AtomicSteps m₁ es m') : AtomicSteps m (e :: es) m'

variable {m m' : Memory}

/-- No exchange does nothing. -/
@[simp] theorem atomicSteps_nil : m.AtomicSteps [] m' ↔ m' = m := by
  constructor
  · intro h
    cases h
    rfl
  · rintro rfl
    exact .nil m'

/-- Exchanges are taken one at a time. -/
@[simp] theorem atomicSteps_cons {e : Exchange} {es : List Exchange} :
    m.AtomicSteps (e :: es) m' ↔ ∃ m₁, m.AtomicStep e m₁ ∧ m₁.AtomicSteps es m' := by
  constructor
  · intro h
    cases h with
    | cons step rest => exact ⟨_, step, rest⟩
  · rintro ⟨m₁, step, rest⟩
    exact .cons step rest

/-- Exchanges are taken up to some point, and from there on. -/
theorem atomicSteps_append {es₁ es₂ : List Exchange} :
    m.AtomicSteps (es₁ ++ es₂) m' ↔ ∃ m₁, m.AtomicSteps es₁ m₁ ∧ m₁.AtomicSteps es₂ m' := by
  induction es₁ generalizing m with
  | nil => simp
  | cons e es₁ ih =>
    simp only [List.cons_append, atomicSteps_cons, ih]
    constructor
    · rintro ⟨m₁, step, m₂, h₁, h₂⟩
      exact ⟨m₂, ⟨m₁, step, h₁⟩, h₂⟩
    · rintro ⟨m₂, ⟨m₁, step, h₁⟩, h₂⟩
      exact ⟨m₁, step, m₂, h₁, h₂⟩

/-- What such an exchange leaves depends on it alone. -/
theorem AtomicStep.unique {e : Exchange} {m₁ m₂ : Memory} (h₁ : m.AtomicStep e m₁)
    (h₂ : m.AtomicStep e m₂) : m₁ = m₂ := by
  obtain ⟨c, answer⟩ := e
  cases c with
  | read c => rw [h₁.step.of_read, h₂.step.of_read]
  | engine c =>
    -- A step alone would leave it open whether a request that failed did anything.
    cases answer with
    | ok value => exact (Prod.mk.inj (h₁.step.of_ok.symm.trans h₂.step.of_ok)).2
    | error e =>
      have hfailed := Exchange.not_succeeded_error (.engine c) e
      rw [h₁.atomic hfailed, h₂.atomic hfailed]

/-- What such exchanges leave depends on them alone. -/
theorem AtomicSteps.unique {es : List Exchange} {m₁ m₂ : Memory} (h₁ : m.AtomicSteps es m₁)
    (h₂ : m.AtomicSteps es m₂) : m₁ = m₂ := by
  induction h₁ with
  | nil m => exact (atomicSteps_nil.1 h₂).symm
  | cons step rest ih =>
    obtain ⟨m₁, step', rest'⟩ := atomicSteps_cons.1 h₂
    rw [step.unique step'] at ih
    exact ih rest'

end Memory

/-- Exchanges that change nothing where requests that fail do nothing. -/
inductive Exchange.Idle : Exchange → Prop
  | failed (c : Call) (e : c.Failure) : Idle ⟨c, .error e⟩
  | read (c : ReadCall) (answer : Except StoreError c.Value) : Idle ⟨.read c, answer⟩
  | lookedUp (index id : String) (found : Bool) :
      Idle ⟨.engine (.documentExists index id), .ok found⟩

/-- An idle exchange leaves the engine as it is. -/
theorem Memory.AtomicStep.eq_of_idle {m m' : Memory} {e : Exchange} (h : m.AtomicStep e m')
    (he : e.Idle) : m' = m := by
  cases he with
  | failed c e => exact h.atomic (Exchange.not_succeeded_error c e)
  | read c answer => exact h.step.of_read
  | lookedUp index id found => exact (congrArg Prod.snd h.step.of_ok).symm

/-- And so do any number of them. -/
theorem Memory.AtomicSteps.eq_of_idle {m m' : Memory} {es : List Exchange}
    (h : m.AtomicSteps es m') (hes : ∀ e ∈ es, e.Idle) : m' = m := by
  induction h with
  | nil m => rfl
  | cons step rest ih =>
    obtain ⟨he, hes⟩ := List.forall_mem_cons.1 hes
    rw [ih hes, step.eq_of_idle he]

/-! ## An engine that rejects no ids -/

namespace Memory

variable {m m' : Memory}

/-- Exchanges are atomic if each request that the engine can refuse does nothing then. -/
theorem Steps.atomic {es : List Exchange} (h : m.Steps es m') (hrefused : m.refused = [])
    (hcalls : ∀ call ∈ engineCalls es, ∀ m m' : Memory, m.refused = [] →
      ∀ e, m.Step ⟨.engine call, .error e⟩ m' → m' = m) : m.AtomicSteps es m' := by
  induction h with
  | nil m => exact .nil m
  | @cons m m₁ m' e es step rest ih =>
    -- No request changes which ids are rejected, so the rest starts from such an engine too.
    have hrest := ih (step.refused_eq.trans hrefused)
    obtain ⟨c, answer⟩ := e
    cases c with
    | read c =>
      exact .cons ⟨step, fun _ => step.of_read⟩ (hrest hcalls)
    | engine c =>
      obtain ⟨hfirst, hcalls⟩ := List.forall_mem_cons.1 hcalls
      refine .cons ⟨step, fun hfailed => ?_⟩ (hrest hcalls)
      cases answer with
      | ok value => exact absurd (Exchange.succeeded_ok (.engine c) value) hfailed
      | error e => exact hfirst m m₁ hrefused e step

/-- An edit that is refused leaves the documents alone. -/
theorem eq_of_updateDocument_error {i id : String} {fields : Document} {e : EngineError}
    (h : m.updateDocument i id fields = (.error e, m')) : m' = m := by
  cases hd : m.document? i id with
  | none =>
    rw [updateDocument_of_none fields hd] at h
    exact (Prod.mk.inj h).2.symm
  | some d =>
    rw [updateDocument_of_some fields hd] at h
    cases congrArg Prod.fst h

end Memory

namespace Sync

variable {s : SyncSettings} {c : Change} {es : List Exchange} {ls : List LogRecord}
  {m m' : Memory}

/-- A request of an event that the engine refuses does nothing, if it rejects no ids. -/
theorem Request.eq_of_error {call : EngineCall} {e : EngineError} (h : Request s es call)
    (hrefused : m.refused = []) (hstep : m.Step ⟨.engine call, .error e⟩ m') : m' = m := by
  refine hstep.of_error.elim id fun hanswer => ?_
  obtain hunconditional | ⟨target, body, rfl⟩ := h.unconditional_or_edit
  · -- Most requests cannot be refused by this engine at all.
    obtain ⟨value, hvalue⟩ := Memory.exists_answer_of_unconditional hunconditional hrefused
    rw [hanswer] at hvalue
    cases hvalue
  · -- An edit can: its target may be missing.
    exact Memory.eq_of_updateDocument_error hanswer

/-- Every change is atomic for an engine that rejects no ids. -/
theorem Handling.atomicSteps {r : Except CallError SyncOutcome} (h : Handling s c es ls r)
    (hsteps : m.Steps es m') (hrefused : m.refused = []) : m.AtomicSteps es m' :=
  hsteps.atomic hrefused fun call hcall _ _ hrefused _ =>
    (h.request call hcall).eq_of_error hrefused

/-! ## One event -/

/-- The exchange in which the document of a room is removed. -/
def roomRemoval (s : SyncSettings) (roomId : String) : Exchange :=
  ⟨.engine (.deleteDocument s.indices.rooms roomId), .ok ()⟩

/-- Before a change fails it has done nothing; the encryption of a room has at most removed the
document of the room. -/
theorem Handling.idle_of_error {e : CallError} (h : Handling s c es ls (.error e)) :
    (∀ x ∈ es, x.Idle) ∨ ∃ roomId algorithm rest, c = .roomEncrypted roomId algorithm ∧
      es = roomRemoval s roomId :: rest ∧ ∀ x ∈ rest, x.Idle := by
  -- A change fails with its last request, so the rest of its exchanges is told by the case.
  have hclosing : ∀ {call : EngineCall} {answer : Except EngineError call.Value},
      closing answer = .error e → Exchange.Idle ⟨.engine call, answer⟩ := by
    intro call answer hanswer
    cases answer with
    | ok value => cases hanswer
    | error failure => exact .failed (.engine call) failure
  have hquestion : ∀ (call : ReadCall) (answer : Except StoreError call.Value) {rest},
      (∀ x ∈ rest, Exchange.Idle x) → ∀ x ∈ ⟨.read call, answer⟩ :: rest, Exchange.Idle x :=
    fun call answer _ hrest => List.forall_mem_cons.2 ⟨.read call answer, hrest⟩
  generalize hr : (.error e : Except CallError SyncOutcome) = r at h
  cases h with
  -- encrypted | redacted | messageSkipped | displayNameWritten => cases hr | These do not fail.
  | renameSkipped | encrypted | redacted | messageSkipped | displayNameWritten => cases hr
  | messagesKept roomId algorithm failure =>
    exact .inr ⟨roomId, algorithm, _, rfl, rfl,
      List.forall_mem_singleton.2 (.failed (.engine _) failure)⟩
  | renameUnread | roomKept | senderUnread | displayNameKept =>
    exact .inl (List.forall_mem_singleton.2 (.failed _ _))
  -- removed roomId target answer => | One request, and it is the one that failed.
  | edited roomId target body answer | removed roomId target answer =>
    exact .inl (List.forall_mem_singleton.2 (hclosing hr.symm))
  -- unnamed roomId room answer => | A question before it, which does nothing.
  | named roomId name room answer | unnamed roomId room answer =>
    exact .inl (hquestion _ _ (List.forall_mem_singleton.2 (hclosing hr.symm)))
  -- A message asks four questions, each of which can be the last.
  | indexUnread roomId eventId sender body displayName failure =>
    exact .inl (hquestion _ _ (List.forall_mem_singleton.2 (.failed (.engine _) failure)))
  | redactionUnread roomId eventId sender body displayName indexed failure =>
    refine .inl (hquestion _ _ (List.forall_mem_cons.2 ⟨.lookedUp _ _ _, ?_⟩))
    exact hquestion _ _ (List.forall_mem_nil _)
  | roomUnread roomId eventId sender body displayName indexed failure =>
    refine .inl (hquestion _ _ (List.forall_mem_cons.2 ⟨.lookedUp _ _ _, ?_⟩))
    exact hquestion _ _ (hquestion _ _ (List.forall_mem_nil _))
  | written roomId eventId sender body displayName indexed room answer =>
    refine .inl (hquestion _ _ (List.forall_mem_cons.2 ⟨.lookedUp _ _ _, ?_⟩))
    refine hquestion _ _ (hquestion _ _ ?_)
    exact List.forall_mem_singleton.2 (hclosing hr.symm)

/-- What a failed change leaves is what was there, or that without the document of the room that
was to be encrypted. -/
theorem Handling.eq_of_error {e : CallError} (h : Handling s c es ls (.error e))
    (hsteps : m.AtomicSteps es m') :
    m' = m ∨ ∃ roomId algorithm, c = .roomEncrypted roomId algorithm ∧
      m.AtomicSteps [roomRemoval s roomId] m' := by
  obtain hidle | ⟨roomId, algorithm, rest, rfl, rfl, hidle⟩ := h.idle_of_error
  · exact .inl (hsteps.eq_of_idle hidle)
  · -- Only the first request did anything; the rest is left out.
    obtain ⟨m₁, hremoval, hrest⟩ := Memory.atomicSteps_cons.1 hsteps
    refine .inr ⟨roomId, algorithm, rfl, .cons hremoval ?_⟩
    rw [hrest.eq_of_idle hidle]
    exact .nil m₁

/-- The removal of a room's document removes nothing else. -/
theorem contents_of_roomRemoval {roomId : String}
    (h : m.AtomicSteps [roomRemoval s roomId] m') :
    m'.contents = m.contents.put s.indices.rooms roomId none := by
  obtain ⟨m₁, hremoval, hrest⟩ := Memory.atomicSteps_cons.1 h
  have hanswer : m.deleteDocument s.indices.rooms roomId = m₁ :=
    congrArg Prod.snd hremoval.step.of_ok
  rw [Memory.atomicSteps_nil.1 hrest, ← hanswer, Memory.contents_deleteDocument]

/-! ## Runs -/

/-- An event with the exchanges in which it was handled. -/
structure Handled (s : SyncSettings) where
  event : RoomEvent
  exchanges : List Exchange
  logs : List LogRecord
  ends : (handle s event).Ends exchanges logs ()

/-- Every event is atomic for an engine that rejects no ids. -/
theorem Handled.atomicSteps (h : Handled s) (hsteps : m.Steps h.exchanges m')
    (hrefused : m.refused = []) : m.AtomicSteps h.exchanges m' := by
  obtain ⟨hnone, -⟩ | ⟨c, r, ls, -, hhandling, -⟩ := handling_of_ends_handle h.ends
  · -- An event that no change is made of asks for nothing.
    rw [hnone] at hsteps ⊢
    exact Memory.atomicSteps_nil.2 (Memory.steps_nil.1 hsteps)
  · exact hhandling.atomicSteps hsteps hrefused

/-- Whether the change that an event asks for failed. -/
def Handled.Failed (h : Handled s) (c : Change) : Prop :=
  h.event.change? = .ok (some c) ∧ ∃ ls e, (apply s c).run.Ends h.exchanges ls (.error e)

/-- What may stand in a run in the place of an event: the event itself if it did not fail, and
otherwise nothing, or just the removal of the document of the room that it is about. -/
inductive Handled.Instead : Handled s → List Exchange → Prop
  | kept (h : Handled s) (hwell : ∀ c, ¬ h.Failed c) : Instead h h.exchanges
  | dropped (h : Handled s) {c : Change} (hfailed : h.Failed c) : Instead h []
  | reduced (h : Handled s) {roomId algorithm : String}
      (hfailed : h.Failed (.roomEncrypted roomId algorithm)) :
      Instead h [roomRemoval s roomId]

/-- In the place of each event there is something that does what it did. -/
theorem Handled.exists_instead (h : Handled s) (hsteps : m.AtomicSteps h.exchanges m') :
    ∃ es, h.Instead es ∧ m.AtomicSteps es m' := by
  by_cases hwell : ∀ c, ¬ h.Failed c
  · exact ⟨h.exchanges, .kept h hwell, hsteps⟩
  · -- Which of the two it is, depends on how far the event came.
    obtain ⟨c, hfailed⟩ := Classical.not_forall_not.1 hwell
    obtain ⟨ls, e, hends⟩ := hfailed.2
    obtain rfl | ⟨roomId, algorithm, rfl, hremoval⟩ :=
      (handling_of_ends_apply hends).eq_of_error hsteps
    · -- It did nothing, so nothing takes its place.
      exact ⟨[], .dropped h hfailed, .nil m'⟩
    · exact ⟨[roomRemoval s roomId], .reduced h hfailed, hremoval⟩

/-- A run of events does what a run does in which each failed event gave way. -/
theorem exists_instead_of_run {run : List (Handled s)}
    (hsteps : m.AtomicSteps (run.flatMap (·.exchanges)) m') :
    ∃ instead, List.Forall₂ Handled.Instead run instead ∧ m.AtomicSteps instead.flatten m' := by
  -- The induction is on the events, from whatever state the ones before them left.
  induction run generalizing m with
  | nil => exact ⟨[], .nil, hsteps⟩
  | cons h run ih =>
    rw [List.flatMap_cons] at hsteps
    obtain ⟨m₁, hfirst, hrest⟩ := Memory.atomicSteps_append.1 hsteps
    obtain ⟨es, hes, hdone⟩ := h.exists_instead hfirst
    obtain ⟨instead, hinstead, hdone'⟩ := ih hrest
    exact ⟨es :: instead, .cons hes hinstead, Memory.atomicSteps_append.2 ⟨m₁, hdone, hdone'⟩⟩

/-- Where requests that fail do nothing, a change that fails leaves every document as it was,
except that the encryption of a room may have removed the document of the room.  A run of events
ends in just the state of the run in which each event whose change failed gave way to nothing or
to that removal. -/
theorem failed_events_leave_indices_intact :
    (∀ (c : Change) (es : List Exchange) (ls : List LogRecord) (e : CallError) (m m' : Memory),
      (apply s c).run.Ends es ls (.error e) → m.AtomicSteps es m' →
      m'.contents = m.contents ∨ ∃ roomId algorithm, c = .roomEncrypted roomId algorithm ∧
        m'.contents = m.contents.put s.indices.rooms roomId none) ∧
    ∀ (run : List (Handled s)) (m m' : Memory),
      m.AtomicSteps (run.flatMap (·.exchanges)) m' →
      ∃ instead, List.Forall₂ Handled.Instead run instead ∧
        ∀ m'', m.AtomicSteps instead.flatten m'' ↔ m'' = m' := by
  constructor
  · intro c es ls e m m' hends hsteps
    obtain rfl | ⟨roomId, algorithm, rfl, hremoval⟩ :=
      (handling_of_ends_apply hends).eq_of_error hsteps
    · exact .inl rfl
    · exact .inr ⟨roomId, algorithm, rfl, contents_of_roomRemoval hremoval⟩
  · intro run m m' hsteps
    obtain ⟨instead, hinstead, hdone⟩ := exists_instead_of_run hsteps
    -- What atomic exchanges leave is unique, so the two runs end alike.
    refine ⟨instead, hinstead, fun m'' => ⟨fun hdone' => hdone'.unique hdone, ?_⟩⟩
    rintro rfl
    exact hdone

/-- A room that was just encrypted, and an engine that fails once to remove its messages. -/
def unremovable : World :=
  { World.justEncrypted with
    engineFaults := KeyMap.empty.insert "delete_documents"
      ⟨.status 503 "unavailable_shards_exception", 0, some 1⟩ }

/-- An event as it is handled in a world. -/
def Handled.ofWorld (s : SyncSettings) (event : RoomEvent) (w : World) : Handled s :=
  ⟨event, _, _, Course.ends_exchanges_unit World.handler (handle s event) w⟩

/-- The theorem at an encryption that fails half way, and a run that goes on after it. -/
theorem failed_events_leave_indices_intact_unremovable :
    let encryption : Change := .roomEncrypted "!r" "m.megolm.v1.aes-sha2"
    let first := Handled.ofWorld .plain .encryptingRoom unremovable
    let w := ((handle .plain .encryptingRoom).run World.handler unremovable).state
    let second := Handled.ofWorld .plain earlyEdit w
    let w' := ((handle .plain earlyEdit).run World.handler w).state
    ((apply .plain encryption).run.run World.handler unremovable).state.memory.contents =
        unremovable.memory.contents.put "rooms" "!r" none ∧
      ∃ instead, List.Forall₂ Handled.Instead [first, second] instead ∧
        unremovable.memory.AtomicSteps instead.flatten w'.memory := by
  intro encryption first w second w'
  obtain ⟨hone, hrun⟩ := failed_events_leave_indices_intact (s := .plain)
  constructor
  · have hends := Course.ends_exchanges World.handler (apply .plain encryption).run unremovable
    have hsteps := World.steps_exchanges (apply .plain encryption).run unremovable
    -- The second request of the encryption meets the fault.
    have hvalue : ((apply .plain encryption).run.run World.handler unremovable).value =
        .error (.engine (.status 503 "unavailable_shards_exception")) := by
      decide +kernel
    rw [hvalue] at hends
    have hatomic := (handling_of_ends_apply hends).atomicSteps hsteps rfl
    obtain hsame | ⟨roomId, algorithm, heq, hremoved⟩ := hone _ _ _ _ _ _ hends hatomic
    · -- The document of the room is gone.
      cases congrFun (congrFun hsame "rooms") "!r"
    · obtain ⟨rfl, -⟩ := Change.roomEncrypted.inj heq
      exact hremoved
  · have hfirst : unremovable.memory.AtomicSteps first.exchanges w.memory :=
      first.atomicSteps (World.steps_exchanges _ unremovable) rfl
    have hsecond : w.memory.AtomicSteps second.exchanges w'.memory :=
      second.atomicSteps (World.steps_exchanges _ w) rfl
    have hboth : unremovable.memory.AtomicSteps
        ([first, second].flatMap (·.exchanges)) w'.memory :=
      Memory.atomicSteps_append.2 ⟨w.memory, hfirst,
        Memory.atomicSteps_append.2 ⟨w'.memory, hsecond, .nil w'.memory⟩⟩
    obtain ⟨instead, hinstead, hdone⟩ := hrun [first, second] _ _ hboth
    exact ⟨instead, hinstead, (hdone _).2 rfl⟩

end Sync

end ChatIndex
