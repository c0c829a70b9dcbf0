import ChatIndex.Proofs.AdminTokens
import ChatIndex.Proofs.BulkReplies
import ChatIndex.Proofs.Restoring

/-!
# Details of failures stay inside

A failure of the engine or of the read model has details: what the engine answered, which documents
it rejected, what the database said, what is wrong with a document.  They are written to the log,
and no answer to a client depends on them.  So two runs in which the same requests fail for the same
causes answer a request alike, whatever the details are.  A bulk failure is made of the documents
that were rejected, and there is always one: any two that the engine client makes have one cause.

* `Course.Alike.run`                what courses that ask alike end in, if they are told alike
* `Attempt.Alike.bind`              attempts are compared step by step
* `alike_respond`                   no path looks into a failure
* `EngineClient.sameCause_of_ends`  bulk failures behind the engine client have one cause
* `World.alike_handler`             worlds that differ in the details of failures answer alike
* `details_stay_inside`             the answers of two services whose failures differ in details
-/

namespace ChatIndex

/-! ## Courses that are told alike -/

section Courses

variable {ρ : Type} {Answer : ρ → Type} {α α' β β' σ τ : Type}
  {Told : (c : ρ) → Answer c → Answer c → Prop}

/-- Two handlers that answer alike from states in a relation, and keep their states in it. -/
def Handler.Alike (Told : (c : ρ) → Answer c → Answer c → Prop) (R : σ → τ → Prop)
    (h : Handler ρ Answer σ) (k : Handler ρ Answer τ) : Prop :=
  ∀ c s t, R s t → Told c (h c s).1 (k c t).1 ∧ R (h c s).2 (k c t).2

namespace Course

/-- Two courses that ask for the same as long as they are told alike, and then end in values in a
relation.  They may write different log records. -/
inductive Alike (Told : (c : ρ) → Answer c → Answer c → Prop) (V : α → α' → Prop) :
    Course ρ Answer α → Course ρ Answer α' → Prop
  | done {a a'} (h : V a a') : Alike Told V (.done a) (.done a')
  | call {c next next'} (h : ∀ x y, Told c x y → Alike Told V (next x) (next' y)) :
      Alike Told V (.call c next) (.call c next')
  | log {r r' next next'} (h : Alike Told V next next') :
      Alike Told V (.log r next) (.log r' next')

/-- A course after a course: the second ones go on from values in the relation. -/
theorem Alike.bind {V : α → α' → Prop} {W : β → β' → Prop} {p : Course ρ Answer α}
    {q : Course ρ Answer α'} {f : α → Course ρ Answer β} {g : α' → Course ρ Answer β'}
    (h : Alike Told V p q) (hnext : ∀ a a', V a a' → Alike Told W (f a) (g a')) :
    Alike Told W (p >>= f) (q >>= g) := by
  induction h with
  | done h => exact hnext _ _ h
  | call _ ih => exact .call fun x y hxy => ih x y hxy
  | log _ ih => exact .log ih

/-- Against handlers that answer alike, such courses end in values in the relation, and leave
states in theirs. -/
theorem Alike.run {R : σ → τ → Prop} {h : Handler ρ Answer σ} {k : Handler ρ Answer τ}
    (hanswers : Handler.Alike Told R h k) {V : α → α' → Prop} {p : Course ρ Answer α}
    {q : Course ρ Answer α'} (halike : Alike Told V p q) {s : σ} {t : τ} (hst : R s t) :
    V (p.run h s).value (q.run k t).value ∧ R (p.run h s).state (q.run k t).state := by
  induction halike generalizing s t with
  | done hvalue => exact ⟨hvalue, hst⟩
  | call _ ih =>
    obtain ⟨htold, hnext⟩ := hanswers _ s t hst
    exact ih _ _ htold hnext
  | log _ ih => exact ih hst

end Course

end Courses

/-! ## Failures that differ in their details -/

/-- Two failures of the engine for one cause.  All they say beyond it may differ, the number of
rejected documents too, as long as there are some. -/
inductive EngineError.SameCause : EngineError → EngineError → Prop
  | status (code code' : Nat) (body body' : String) :
      SameCause (.status code body) (.status code' body')
  | bulkFailure {rejections rejections' : List Rejection} (h : rejections = [] ↔ rejections' = []) :
      SameCause (.bulkFailure rejections) (.bulkFailure rejections')
  | invalidUrl (reason reason' : String) : SameCause (.invalidUrl reason) (.invalidUrl reason')
  | transportBuild (reason reason' : String) :
      SameCause (.transportBuild reason) (.transportBuild reason')
  | transport (reason reason' : String) : SameCause (.transport reason) (.transport reason')
  | invalidResponse (reason reason' : String) :
      SameCause (.invalidResponse reason) (.invalidResponse reason')
  | serialization (reason reason' : String) :
      SameCause (.serialization reason) (.serialization reason')

/-- Two failures of the read model for one cause. -/
inductive StoreError.SameCause : StoreError → StoreError → Prop
  | roomNotFound (roomId roomId' : String) :
      SameCause (.roomNotFound roomId) (.roomNotFound roomId')
  | ambiguousRoom (roomId roomId' : String) (count count' : Nat) :
      SameCause (.ambiguousRoom roomId count) (.ambiguousRoom roomId' count')
  | database (reason reason' : String) : SameCause (.database reason) (.database reason')

/-- Two failures of a request for one cause. -/
inductive CallError.SameCause : CallError → CallError → Prop
  | engine {e e' : EngineError} (h : e.SameCause e') : SameCause (.engine e) (.engine e')
  | store {e e' : StoreError} (h : e.SameCause e') : SameCause (.store e) (.store e')

/-- Two failures of a search for one cause.  What is wrong with the text is no detail. -/
inductive QueryError.SameCause : QueryError → QueryError → Prop
  | invalid (reason : String) : SameCause (.invalid reason) (.invalid reason)
  | call {e e' : CallError} (h : e.SameCause e') : SameCause (.call e) (.call e')

/-- Two failures of the service that a client cannot tell apart. -/
def ServiceError.SeenAlike (e e' : ServiceError) : Prop :=
  ∀ now, e.envelope now = e'.envelope now

theorem EngineError.SameCause.refl (e : EngineError) : e.SameCause e := by
  cases e
  case bulkFailure rejections => exact .bulkFailure Iff.rfl
  all_goals constructor

theorem StoreError.SameCause.refl (e : StoreError) : e.SameCause e := by
  cases e <;> constructor

theorem ServiceError.SeenAlike.refl (e : ServiceError) : e.SeenAlike e :=
  fun _ => rfl

/-- The engine client only makes bulk failures with rejected documents, so any two have one
cause. -/
theorem EngineClient.sameCause_of_ends {client client' : EngineClient} {batch batch' : BulkBatch}
    {es es' : List EngineClient.Exchange} {ls ls' : List LogRecord}
    {rejections rejections' : List Rejection}
    (h : (client.indexDocuments batch).run.Ends es ls (.error (.bulkFailure rejections)))
    (h' : (client'.indexDocuments batch').run.Ends es' ls' (.error (.bulkFailure rejections'))) :
    (EngineError.bulkFailure rejections).SameCause (.bulkFailure rejections') :=
  .bulkFailure (iff_of_false (rejections_ne_nil_of_ends h) (rejections_ne_nil_of_ends h'))

/-- What fails inside is told by its side alone. -/
theorem CallError.SameCause.seenAlike {e e' : CallError} (h : e.SameCause e') :
    (Http.callFailure e).SeenAlike (Http.callFailure e') := by
  cases h <;> exact fun _ => rfl

/-- A failed search shows what is wrong with its text, or which side failed. -/
theorem QueryError.SameCause.seenAlike {e e' : QueryError} (h : e.SameCause e') :
    (ServiceError.ofQueryError e).SeenAlike (ServiceError.ofQueryError e') := by
  cases h with
  | invalid reason => exact .refl _
  | call h => cases h <;> exact fun _ => rfl

/-! ## Attempts -/

/-- Two outcomes that are both successes, with values in a relation, or both failures, with errors
in one. -/
inductive OutcomesAlike {ε ε' α α' : Type} (E : ε → ε' → Prop) (V : α → α' → Prop) :
    Except ε α → Except ε' α' → Prop
  | error {e e'} (h : E e e') : OutcomesAlike E V (.error e) (.error e')
  | ok {a a'} (h : V a a') : OutcomesAlike E V (.ok a) (.ok a')

/-- Two failures of one request for one cause. -/
def Call.SameCause : (c : Call) → c.Failure → c.Failure → Prop
  | .engine _ => EngineError.SameCause
  | .read _ => StoreError.SameCause

/-- Two answers to one request: the same value, or failures for one cause. -/
def Call.ToldAlike (c : Call) : c.Answer → c.Answer → Prop :=
  OutcomesAlike c.SameCause Eq

namespace Attempt

variable {ε ε' δ δ' α α' β β' : Type} {E : ε → ε' → Prop} {D : δ → δ' → Prop}
  {V : α → α' → Prop} {W : β → β' → Prop}

/-- Two attempts that ask for the same as long as they are told alike, and then come to the same
kind of end. -/
def Alike (E : ε → ε' → Prop) (V : α → α' → Prop) (x : Attempt ε α) (y : Attempt ε' α') : Prop :=
  Course.Alike Call.ToldAlike (OutcomesAlike E V) x.run y.run

theorem alike_pure {a : α} {a' : α'} (h : V a a') :
    Alike E V (pure a : Attempt ε α) (pure a' : Attempt ε' α') :=
  .done (.ok h)

theorem alike_throw {e : ε} {e' : ε'} (h : E e e') :
    Alike E V (throw e : Attempt ε α) (throw e' : Attempt ε' α') :=
  .done (.error h)

/-- What is logged may differ. -/
theorem alike_record (level level' : LogLevel) (message message' : String)
    (fields fields' : List (String × String)) :
    Alike E Eq (record level message fields) (record level' message' fields') :=
  .log (.done (.ok rfl))

/-- One request: the same answer, or a failure for the same cause. -/
theorem alike_ask (c : Call) : Alike CallError.SameCause Eq (ask c) (ask c) := by
  refine .call fun x y hxy => .done ?_
  cases hxy with
  | error h =>
    cases c with
    | engine c => exact .error (.engine h)
    | read c => exact .error (.store h)
  | ok h => exact .ok h

theorem alike_engine (c : EngineCall) : Alike CallError.SameCause Eq (engine c) (engine c) :=
  alike_ask (.engine c)

theorem alike_read (c : ReadCall) : Alike CallError.SameCause Eq (read c) (read c) :=
  alike_ask (.read c)

theorem alike_lift {p : Program α} {q : Program α'} (h : Course.Alike Call.ToldAlike V p q) :
    Alike E V (ExceptT.lift p) (ExceptT.lift q) :=
  h.bind fun _ _ hvalue => .done (.ok hvalue)

/-- A request whose failure is handed over gives answers alike. -/
theorem alike_tryEngine (c : EngineCall) :
    Alike E (OutcomesAlike EngineError.SameCause Eq) (tryEngine c) (tryEngine c) :=
  alike_lift (.call fun _ _ hxy => .done hxy)

/-- Attempts are compared step by step: a failure of the first step is one of the whole. -/
theorem Alike.bind {x : Attempt ε α} {y : Attempt ε' α'} {f : α → Attempt ε β}
    {g : α' → Attempt ε' β'} (h : Alike E V x y) (hnext : ∀ a a', V a a' → Alike E W (f a) (g a')) :
    Alike E W (x >>= f) (y >>= g) := by
  refine Course.Alike.bind h fun a a' houtcome => ?_
  cases houtcome with
  | error h => exact .done (.error h)
  | ok h => exact hnext _ _ h

/-- The rest of two attempts, after a step that gives both the same value. -/
theorem Alike.bind_eq {x : Attempt ε α} {y : Attempt ε' α} {f : α → Attempt ε β}
    {g : α → Attempt ε' β'} (h : Alike E Eq x y) (hnext : ∀ a, Alike E W (f a) (g a)) :
    Alike E W (x >>= f) (y >>= g) := by
  refine h.bind ?_
  rintro a _ rfl
  exact hnext a

/-- Attempts whose failures become failures of another kind. -/
theorem Alike.adapt {x : Attempt ε α} {y : Attempt ε' α'} {f : ε → δ} {g : ε' → δ'}
    (h : Alike E V x y) (herror : ∀ e e', E e e' → D (f e) (g e')) :
    Alike D V (x.adapt f) (y.adapt g) := by
  refine Course.Alike.bind h fun a a' houtcome => .done ?_
  cases houtcome with
  | error h => exact .error (herror _ _ h)
  | ok h => exact .ok h

end Attempt

open Attempt

/-! ## Searches -/

namespace Search

/-- The questions about direct rooms do not look into a failure. -/
theorem alike_directContext (roomIds : List String) (userId : String) :
    Alike CallError.SameCause Eq (directContext roomIds userId) (directContext roomIds userId) := by
  unfold directContext
  split
  · exact alike_pure rfl
  refine (alike_read _).bind_eq fun directRooms => ?_
  split
  · exact alike_pure rfl
  exact (alike_read _).bind_eq fun _ => alike_pure rfl

/-- Nor do those about the rooms of the hits. -/
theorem alike_roomContext (listing : Listing) (userRooms : List String)
    (messages : List MessageDocument) (userId : String) :
    Alike CallError.SameCause Eq (roomContext listing userRooms messages userId)
      (roomContext listing userRooms messages userId) :=
  (alike_read _).bind_eq fun _ => (alike_directContext _ _).bind_eq fun _ => alike_pure rfl

/-- Nor does the request for the hits. -/
theorem alike_results (listing : Listing) (names : IndexNames)
    (pattern userId : String) (email : Option String) :
    Alike CallError.SameCause Eq (results listing names pattern userId email)
      (results listing names pattern userId email) := by
  refine (alike_engine _).bind_eq fun lists => (alike_read _).bind_eq fun userRooms => ?_
  split
  · -- What is wrong with the hits is told by the hits, which are the same.
    exact alike_throw (.engine (.refl _))
  · split
    · exact alike_pure rfl
    · exact (alike_roomContext _ _ _ _).bind_eq fun _ => alike_pure rfl

/-- A search tells failures apart by their side only. -/
theorem alike_run (names : IndexNames) (text userId : String) (email : Option String) :
    Alike QueryError.SameCause Eq (run names text userId email) (run names text userId email) := by
  unfold run runWith
  cases hpattern : pattern text with
  | error e =>
    obtain ⟨reason, rfl⟩ := eq_invalid_of_pattern hpattern
    exact alike_throw (.invalid reason)
  | ok pattern => exact (alike_results _ _ _ _ _).adapt fun _ _ h => .call h

end Search

/-! ## Restores -/

namespace Bootstrap

/-- Batches are sent to the end whichever documents are rejected, and it is known afterwards
whether there were any. -/
theorem alike_sendAll (index : String) (batches : List (List BulkDocument)) :
    Alike CallError.SameCause (fun rejections rejections' => rejections = [] ↔ rejections' = [])
      (sendAll index batches) (sendAll index batches) := by
  induction batches with
  | nil => exact alike_pure Iff.rfl
  | cons batch batches ih =>
    refine (alike_tryEngine _).bind fun answer answer' hanswer => ?_
    cases hanswer with
    | ok h => exact ih
    | error h =>
      cases h with
      | bulkFailure h =>
        -- What was rejected is kept, and the other batches are sent.
        refine (alike_record _ _ _ _ _ _).bind_eq fun _ => ih.bind fun more more' hmore => ?_
        exact alike_pure (by rw [List.append_eq_nil_iff, List.append_eq_nil_iff, h, hmore])
      | _ => exact alike_throw (.engine (by constructor))

/-- A backfill fails for rejected documents, however many there are. -/
theorem alike_backfill (batchSize : Nat) (index : String) (documents : List BulkDocument) :
    Alike CallError.SameCause Eq (backfill batchSize index documents)
      (backfill batchSize index documents) := by
  refine (alike_sendAll _ _).bind fun rejections rejections' hrejections => ?_
  -- How it ends is told by whether there were rejections, not by their number.
  have hempty : rejections.isEmpty = rejections'.isEmpty := by
    rw [Bool.eq_iff_iff, List.isEmpty_iff, List.isEmpty_iff, hrejections]
  simp only [hempty]
  split
  · exact alike_throw (.engine (.bulkFailure hrejections))
  · exact (alike_record _ _ _ _ _ _).bind_eq fun _ => alike_pure rfl

/-- Making sure of an index does not look into a failure. -/
theorem alike_ensureIndex (name : String) (mapping : Json) :
    Alike CallError.SameCause Eq (ensureIndex name mapping) (ensureIndex name mapping) := by
  refine (alike_engine _).bind_eq fun present => ?_
  split
  · exact (alike_record _ _ _ _ _ _).bind_eq fun _ => alike_pure rfl
  · refine (alike_engine _).bind_eq fun _ => ?_
    exact (alike_record _ _ _ _ _ _).bind_eq fun _ => alike_pure rfl

/-- Nor does filling it. -/
theorem alike_ensureFilled (batchSize : Nat) (index : String) (mapping : Json)
    (snapshot : ReadCall) (entries : snapshot.Value → List BulkDocument) :
    Alike CallError.SameCause Eq (ensureFilled batchSize index mapping snapshot entries)
      (ensureFilled batchSize index mapping snapshot entries) := by
  refine (alike_ensureIndex _ _).bind_eq fun created => ?_
  split
  · refine (alike_read _).bind_eq fun rows => ?_
    exact (alike_backfill _ _ _).bind_eq fun _ => alike_pure rfl
  · exact alike_pure rfl

/-- Nor does a restore as a whole. -/
theorem alike_run (batchSize : Nat) (names : IndexNames) :
    Alike CallError.SameCause Eq (run batchSize names) (run batchSize names) := by
  have hrooms : Alike CallError.SameCause Eq (ensureRooms batchSize names)
      (ensureRooms batchSize names) := by
    rw [ensureRooms_eq]
    exact alike_ensureFilled _ _ _ _ _
  have hmessages : Alike CallError.SameCause Eq (ensureMessages batchSize names)
      (ensureMessages batchSize names) := by
    rw [ensureMessages_eq]
    exact alike_ensureFilled _ _ _ _ _
  refine hrooms.bind_eq fun rooms => hmessages.bind_eq fun messages => ?_
  exact (alike_record _ _ _ _ _ _).bind_eq fun _ => alike_pure rfl

end Bootstrap

/-! ## Paths -/

namespace Http

/-- Finding the account of a request shows that the read model failed, and no more. -/
theorem alike_caller (r : Request) :
    Alike ServiceError.SeenAlike Eq (caller r) (caller r) := by
  have hread (c : ReadCall) :
      Alike ServiceError.SeenAlike Eq ((read c).adapt callFailure) ((read c).adapt callFailure) :=
    (alike_read c).adapt fun _ _ h => h.seenAlike
  unfold caller
  split
  · exact alike_throw (.refl _)
  · refine (hread _).bind_eq fun userId => ?_
    split
    · exact alike_throw (.refl _)
    · exact (hread _).bind_eq fun _ => alike_pure rfl

/-- A search for an account shows which side failed. -/
theorem alike_searchFor (names : IndexNames) (caller : Caller) (text : String) :
    Alike ServiceError.SeenAlike Eq (searchFor names caller text)
      (searchFor names caller text) := by
  refine (alike_lift (Search.alike_run _ _ _ _)).bind fun answer answer' hanswer => ?_
  cases hanswer with
  | ok h =>
    cases h
    exact alike_pure rfl
  -- The failure is logged in full, and answered by its side.
  | error h => exact (alike_record _ _ _ _ _ _).bind_eq fun _ => alike_throw h.seenAlike

/-- The path that searches. -/
theorem alike_search (config : Config) (r : Request) :
    Alike ServiceError.SeenAlike Eq (search config r) (search config r) := by
  refine (alike_caller r).bind_eq fun caller => ?_
  split
  · exact alike_pure rfl
  · split
    · exact alike_throw (.refl _)
    · exact alike_searchFor _ _ _

/-- The token is looked at without asking anybody. -/
theorem alike_authorize (config : Config) (r : Request) :
    Alike ServiceError.SeenAlike Eq (authorize config r) (authorize config r) := by
  unfold authorize
  split
  · exact alike_throw (.refl _)
  · split
    · exact alike_pure rfl
    · exact (alike_record _ _ _ _ _ _).bind_eq fun _ => alike_throw (.refl _)

/-- The path that restores: whatever failed, the same failure is shown. -/
theorem alike_restore (config : Config) (r : Request) :
    Alike ServiceError.SeenAlike Eq (restore config r) (restore config r) := by
  refine (alike_authorize config r).bind_eq fun _ => ?_
  refine (alike_lift (Bootstrap.alike_run _ _)).bind fun answer answer' hanswer => ?_
  cases hanswer with
  | ok h =>
    cases h
    exact (alike_record _ _ _ _ _ _).bind_eq fun _ => alike_pure rfl
  | error h => exact (alike_record _ _ _ _ _ _).bind_eq fun _ => alike_throw (.refl _)

/-- The path that asks after the engine: it is down for whatever reason. -/
theorem alike_health : Alike ServiceError.SeenAlike Eq health health := by
  refine (alike_tryEngine _).bind fun answer answer' hanswer => ?_
  cases hanswer with
  | ok h => exact alike_pure rfl
  | error h => exact (alike_record _ _ _ _ _ _).bind_eq fun _ => alike_throw (.refl _)

/-- No path looks into a failure before it is answered. -/
theorem alike_serve (config : Config) (r : Request) (route : Route) :
    Alike ServiceError.SeenAlike Eq (serve config r route) (serve config r route) := by
  cases route with
  | search => exact alike_search config r
  | restore => exact alike_restore config r
  | health => exact alike_health
  | describe => exact alike_pure rfl

end Http

/-! ## Answers -/

namespace Http

/-- A body without its time. -/
def Body.untimed : Body → Body
  | .json (.object members) => .json (.object (members.filter (·.1 ≠ "timestamp")))
  | body => body

/-- Two answers that are the same apart from their time. -/
def Response.SameButTime (a b : Response) : Prop :=
  a.status = b.status ∧ a.body.untimed = b.body.untimed

/-- An answer that reports a failure depends on the time in one member alone. -/
theorem sameButTime_failure {e e' : ServiceError} (h : e.SeenAlike e') (now later : String) :
    (Response.failure now e).SameButTime (Response.failure later e') := by
  -- The time is inserted last, so without it the members are those that came before.
  have huntimed (now : String) : (Response.failure now e).body.untimed =
      .json (.object ((Entries.ofList
        [("error", .string e.message), ("status", .ofNat e.status),
         ("error_type", .string e.errorType), ("code", .string e.code)]).filter
          (·.1 ≠ "timestamp"))) :=
    congrArg (fun members => Body.json (.object members)) (Entries.filter_insert _ _ _)
  -- All that is sent of a failure is its envelope.
  have hsame : Response.failure later e = Response.failure later e' := by
    have hstatus : e.status = e'.status := congrArg ErrorEnvelope.status (h later)
    rw [Response.failure, Response.failure, hstatus, h later]
  rw [← hsame]
  exact ⟨rfl, (huntimed now).trans (huntimed later).symm⟩

/-- No path looks into a failure. -/
theorem alike_respond (config : Config) (now later : String) (r : Request) :
    Course.Alike Call.ToldAlike Response.SameButTime (respond config now r)
      (respond config later r) := by
  unfold respond
  split
  · exact .done ⟨rfl, rfl⟩
  · refine Course.Alike.bind (alike_serve config r _) fun answer answer' hanswer => ?_
    cases hanswer with
    | ok h =>
      cases h
      exact .done ⟨rfl, rfl⟩
    | error h => exact .done (sameButTime_failure h now later)

end Http

/-! ## Worlds that differ in the details of failures -/

section Worlds

variable {ε : Type} {E : ε → ε → Prop}

/-- Two faults that strike at the same requests. -/
structure Fault.Alike (E : ε → ε → Prop) (f f' : Fault ε) : Prop where
  error : E f.error f'.error
  skip : f.skip = f'.skip
  times : f.times = f'.times

/-- Two tables of faults that strike at the same requests. -/
def Faults.Alike (E : ε → ε → Prop) (fs fs' : Faults ε) : Prop :=
  ∀ name, Option.Rel (Fault.Alike E) (fs.get? name) (fs'.get? name)

/-- Faults that strike at the same requests go on doing so. -/
theorem Fault.Alike.next {f f' : Fault ε} (h : f.Alike E f') :
    Option.Rel E f.next.1 f'.next.1 ∧ f.next.2.Alike E f'.next.2 := by
  obtain ⟨error, skip, times⟩ := f
  obtain ⟨error', skip', times'⟩ := f'
  obtain ⟨herror, rfl, rfl⟩ := h
  -- Whether it strikes now is told by the two counters, and they are the same.
  cases skip with
  | succ skip => exact ⟨.none, herror, rfl, rfl⟩
  | zero =>
    cases times with
    | none => exact ⟨.some herror, herror, rfl, rfl⟩
    | some times =>
      cases times with
      | zero => exact ⟨.none, herror, rfl, rfl⟩
      | succ times => exact ⟨.some herror, herror, rfl, rfl⟩

/-- The next request of a name fails in both tables or in neither. -/
theorem Faults.Alike.cases_next {fs fs' : Faults ε} (h : fs.Alike E fs') (name : String) :
    (∃ rest rest', fs.next name = (none, rest) ∧ fs'.next name = (none, rest') ∧
      rest.Alike E rest') ∨
    ∃ e e' rest rest', fs.next name = (some e, rest) ∧ fs'.next name = (some e', rest') ∧
      E e e' ∧ rest.Alike E rest' := by
  have hname := h name
  unfold Faults.next
  -- A fault waits for this name in both tables or in neither.
  cases hfault : fs.get? name with
  | none =>
    cases hfault' : fs'.get? name with
    | none => exact .inl ⟨_, _, rfl, rfl, h⟩
    | some f' =>
      rw [hfault, hfault'] at hname
      cases hname
  | some f =>
    cases hfault' : fs'.get? name with
    | none =>
      rw [hfault, hfault'] at hname
      cases hname
    | some f' =>
      rw [hfault, hfault'] at hname
      obtain ⟨hnow, hlater⟩ := (Option.rel_some_some.1 hname).next
      have hrest : Faults.Alike E (fs.insert name f.next.2) (fs'.insert name f'.next.2) := by
        intro other
        rw [KeyMap.get?_insert, KeyMap.get?_insert]
        split
        · exact .some hlater
        · exact h other
      dsimp only
      cases hstruck : f.next.1 <;> cases hstruck' : f'.next.1 <;> rw [hstruck, hstruck'] at hnow
      · exact .inl ⟨_, _, rfl, rfl, hrest⟩
      · cases hnow
      · cases hnow
      · exact .inr ⟨_, _, _, _, rfl, rfl, Option.rel_some_some.1 hnow, hrest⟩

namespace World

/-- Two worlds that differ in the details of the failures on demand. -/
structure Alike (w w' : World) : Prop where
  memory : w.memory = w'.memory
  tables : w.tables = w'.tables
  engineFaults : w.engineFaults.Alike EngineError.SameCause w'.engineFaults
  storeFaults : w.storeFaults.Alike StoreError.SameCause w'.storeFaults

/-- One and the same answer is told alike. -/
theorem told_self {c : Call} (answer : c.Answer) : c.ToldAlike answer answer := by
  cases answer with
  | error e =>
    cases c with
    | engine c => exact .error (.refl e)
    | read c => exact .error (.refl e)
  | ok value => exact .ok rfl

/-- Such worlds answer alike, and stay such worlds. -/
theorem alike_handler : Handler.Alike Call.ToldAlike Alike handler handler := by
  intro c w w' h
  obtain ⟨memory, tables, engineFaults, storeFaults⟩ := w
  obtain ⟨memory', tables', engineFaults', storeFaults'⟩ := w'
  obtain ⟨rfl, rfl, hengine, hstore⟩ := h
  cases c with
  | engine c =>
    obtain ⟨rest, rest', hnext, hnext', hrest⟩ | ⟨e, e', rest, rest', hnext, hnext', he, hrest⟩ :=
      hengine.cases_next c.name
    · simp only [handler, answerEngine, hnext, hnext']
      -- No fault strikes, so the engine answers, and the engines are the same.
      exact ⟨told_self _, rfl, rfl, hrest, hstore⟩
    · simp only [handler, answerEngine, hnext, hnext']
      exact ⟨.error he, rfl, rfl, hrest, hstore⟩
  | read c =>
    obtain ⟨rest, rest', hnext, hnext', hrest⟩ | ⟨e, e', rest, rest', hnext, hnext', he, hrest⟩ :=
      hstore.cases_next c.name
    · simp only [handler, answerRead, hnext, hnext']
      exact ⟨told_self _, rfl, rfl, hengine, hrest⟩
    · simp only [handler, answerRead, hnext, hnext']
      exact ⟨.error he, rfl, rfl, hengine, hrest⟩

end World

end Worlds

/-! ## What clients see -/

namespace Http

/-- Two services that get the same answers, up to the details of failures, give the same answers,
up to the time; and what they have to do with afterwards is as much alike as it was before. -/
theorem details_stay_inside {σ τ : Type} {R : σ → τ → Prop} {h : Handler Call Call.Answer σ}
    {k : Handler Call Call.Answer τ} (hanswers : Handler.Alike Call.ToldAlike R h k)
    (config : Config) (now later : String) (r : Request) {s : σ} {t : τ} (hst : R s t) :
    let first := (respond config now r).run h s
    let second := (respond config later r).run k t
    first.value.status = second.value.status ∧
      first.value.body.untimed = second.value.body.untimed ∧ R first.state second.state := by
  intro first second
  obtain ⟨⟨hstatus, hbody⟩, hafter⟩ := (alike_respond config now later r).run hanswers hst
  exact ⟨hstatus, hbody, hafter⟩

/-! ### Rejected documents -/

/-- The reference world, where every bulk request fails and reports these documents. -/
def rejecting (rejections : List Rejection) : World :=
  { World.oneMessage with
    engineFaults := KeyMap.empty.insert "index_documents" ⟨.bulkFailure rejections, 0, none⟩ }

/-- Worlds that reject different documents differ in details, if both reject some or neither does.
-/
theorem alike_rejecting {rejections rejections' : List Rejection}
    (h : rejections = [] ↔ rejections' = []) :
    (rejecting rejections).Alike (rejecting rejections') where
  memory := rfl
  tables := rfl
  engineFaults := by
    intro name
    dsimp only [rejecting]
    rw [KeyMap.get?_insert, KeyMap.get?_insert]
    split
    · exact .some ⟨.bulkFailure h, rfl, rfl⟩
    · exact .none
  storeFaults := fun _ => .none

/-- A room that found no place. -/
def noRoomLeft : Rejection :=
  ⟨"rooms", "!r", 429, "no room left"⟩

/-- A room whose name is too long. -/
def nameTooLong : Rejection :=
  ⟨"rooms", "!s", 400, "name too long"⟩

/-- The theorem at a restore that is rejected one room, and one that is rejected two. -/
theorem details_stay_inside_rejecting :
    let first := (respond (settingsWith "secret") "now" (restoreWith "Bearer secret")).run
      World.handler (rejecting [noRoomLeft])
    let second := (respond (settingsWith "secret") "later" (restoreWith "Bearer secret")).run
      World.handler (rejecting [noRoomLeft, nameTooLong])
    Handler.Alike Call.ToldAlike World.Alike World.handler World.handler ∧
      (rejecting [noRoomLeft]).Alike (rejecting [noRoomLeft, nameTooLong]) ∧
      first.value.status = second.value.status ∧
      first.value.body.untimed = second.value.body.untimed ∧ first.state.Alike second.state := by
  -- The runs get no names here: to compare a name with its run, the kernel computes the run.
  have halike : (rejecting [noRoomLeft]).Alike (rejecting [noRoomLeft, nameTooLong]) :=
    alike_rejecting (by simp)
  exact ⟨World.alike_handler, halike, details_stay_inside World.alike_handler
    (settingsWith "secret") "now" "later" (restoreWith "Bearer secret") halike⟩

end Http

end ChatIndex
