import ChatIndex.EngineClient
import ChatIndex.Proofs.Exchange

/-!
# One rule for every reply

Every request of the engine is judged by the same rule, whatever the server replies.  A reply is
accepted if its status is from 200 to 208, or if it is 404 and answers a look at an index or a
document or the removal of a document.  The first reply that is not accepted is the end, and its
status and its text are the failure; a reply that does not come, or whose body cannot be read, is
a failure of the transport.

* `cases_of_ends_send`    a request either ends with its rejection or is accepted and goes on
* `validated_of_ends`     one request of the engine, whatever is replied to it
* `validated_runAgainst`  the same against a list of replies
-/

namespace ChatIndex.EngineClient

/-! ## The rule -/

/-- A request to the server with the reply to it, if one came. -/
abbrev Exchange : Type :=
  (_ : Request) × Option Reply

/-- Whether 404 is an answer and no failure: to a look at an index or a document, and to the
removal of a document. -/
def mayMiss : EngineCall → Method → Bool
  | .indexExists _, .head => true
  | .documentExists _ _, .head => true
  | .deleteDocument _ _, .head => true
  | .deleteDocument _ _, .delete => true
  | _, _ => false

/-- Whether a reply came and is accepted. -/
def Accepted (call : EngineCall) (e : Exchange) : Prop :=
  ∃ reply, e.2 = some reply ∧
    (200 ≤ reply.status ∧ reply.status ≤ 208 ∨
      reply.status = 404 ∧ mayMiss call e.1.method = true)

/-- What a body of a form denotes. -/
def decode? {α : Type} (fields : Json.FieldList) (ofJson? : Json → Option α) (body : String) :
    Option α :=
  (Json.readAs? (.record fields) (Json.bytesOf body)).bind ofJson?

/-- Whether a request of the engine can be answered from a body.  Most requests read none. -/
def Readable : EngineCall → String → Prop
  | .indexDocuments _, body => (decode? BulkReply.fields BulkReply.ofJson? body).isSome = true
  | .updateDocuments .., body => (decode? byQueryFields byQueryOutcome? body).isSome = true
  | .deleteDocuments .., body => (decode? byQueryFields byQueryOutcome? body).isSome = true
  | .search .., body => (decode? searchRepliesFields searchReplies? body).isSome = true
  | _, _ => True

/-- Whether a reply did not come, or was accepted with a body that cannot be read. -/
def Lost (call : EngineCall) (e : Exchange) : Prop :=
  e.2 = none ∨
    ∃ reply, e.2 = some reply ∧ Accepted call e ∧ ¬ Readable call (reply.content e.1.method)

/-- The rule: nothing is asked after a reply that is not accepted, such a reply is the failure with
its status and its text, and a lost reply, and nothing else, is a failure of the transport. -/
structure Checked (call : EngineCall) {α : Type} (es : List Exchange) (r : Except EngineError α) :
    Prop where
  continued : ∀ e ∈ es.dropLast, Accepted call e
  refused : ∀ request reply, (⟨request, some reply⟩ : Exchange) ∈ es →
    ¬ Accepted call ⟨request, some reply⟩ →
    r = .error (.status reply.status (reply.content request.method))
  transport : (∃ reason, r = .error (.transport reason)) ↔ ∃ e ∈ es, Lost call e

variable {α : Type} {call : EngineCall} {e : Exchange} {es : List Exchange}
  {r : Except EngineError α}

/-- The client's own test of a status is the rule. -/
theorem accepted_some_iff {request : Request} {reply : Reply} :
    Accepted call ⟨request, some reply⟩ ↔
      accepts (mayMiss call request.method) reply.status = true := by
  simp [Accepted, accepts, and_comm]

theorem not_accepted_none (request : Request) : ¬ Accepted call ⟨request, none⟩ := by
  simp [Accepted]

/-- The failure that a reply means which is not accepted. -/
def rejection : Exchange → EngineError
  | ⟨_, none⟩ => .transport "no reply"
  | ⟨request, some reply⟩ => .status reply.status (reply.content request.method)

/-! ## Exchanges that obey the rule -/

namespace Checked

theorem nil (a : α) : Checked call [] (.ok a : Except EngineError α) where
  continued := by simp
  refused := by simp
  transport := by simp

/-- The only reply is not accepted. -/
theorem rejected (he : ¬ Accepted call e) :
    Checked call [e] (.error (rejection e) : Except EngineError α) where
  continued := by simp
  refused request reply hmem _ := by
    obtain rfl := List.mem_singleton.1 hmem
    rfl
  transport := by
    obtain ⟨request, reply?⟩ := e
    -- Without a reply the failure is one of the transport, and else it is the status.
    cases reply? with
    | none => simp [rejection, Lost]
    | some reply => simp [rejection, Lost, he]

/-- The only reply is accepted, and the result is a failure of the transport just if the reply
cannot be read. -/
theorem accepted {request : Request} {reply : Reply}
    (he : Accepted call ⟨request, some reply⟩)
    (hr : (∃ reason, r = .error (.transport reason)) ↔
      ¬ Readable call (reply.content request.method)) :
    Checked call [⟨request, some reply⟩] r where
  continued := by simp
  refused request' reply' hmem hnot := by
    cases List.mem_singleton.1 hmem
    exact absurd he hnot
  transport := by
    rw [hr]
    simp [Lost, he]

/-- One more reply before the others, accepted and readable. -/
theorem cons (he : Accepted call e) (hread : ¬ Lost call e) (h : Checked call es r) :
    Checked call (e :: es) r where
  continued := by
    cases es with
    -- A reply with nothing behind it is the last one and need not be accepted.
    | nil => simp
    | cons e' es => exact List.forall_mem_cons.2 ⟨he, h.continued⟩
  refused request reply hmem hnot := by
    obtain rfl | hmem := List.mem_cons.1 hmem
    · exact absurd he hnot
    · exact h.refused request reply hmem hnot
  transport := by
    rw [h.transport]
    simp [hread]

end Checked

/-! ## Single requests -/

/-- The request that a client sends to a target. -/
def request (client : EngineClient) (method : Method) (target : String) (body : List Json) :
    Request :=
  ⟨method, targetUnder client.basePath target, body, client.authorization⟩

variable {client : EngineClient} {missing : Bool} {method : Method} {target : String}
  {body : List Json} {ls : List LogRecord}

/-- A request ends with the rejection of its reply, or its reply is accepted and looked at. -/
theorem cases_of_ends_send {f : Reply → Attempt α} (hmissing : mayMiss call method = missing)
    (h : (client.send missing method target body >>= f).run.Ends es ls r) :
    (∃ e, e.1 = client.request method target body ∧ ¬ Accepted call e ∧ es = [e] ∧
      r = .error (rejection e)) ∨
    ∃ reply es', Accepted call ⟨client.request method target body, some reply⟩ ∧
      es = ⟨client.request method target body, some reply⟩ :: es' ∧
      (f reply).run.Ends es' ls r := by
  rw [ExceptT.run_bind] at h
  change (Course.call (client.request method target body) _).Ends es ls r at h
  rw [Course.ends_call] at h
  obtain ⟨reply?, es', rfl, hrest⟩ := h
  cases reply? with
  | none =>
    obtain ⟨rfl, -, rfl⟩ := Course.ends_done.1 hrest
    exact .inl ⟨⟨_, none⟩, rfl, not_accepted_none _, rfl, rfl⟩
  | some reply =>
    have haccepted : Accepted call ⟨client.request method target body, some reply⟩ ↔
        accepts missing reply.status = true := by
      rw [accepted_some_iff, ← hmissing]
      rfl
    -- The client goes on just if the rule accepts the status.
    by_cases hstatus : accepts missing reply.status = true
    · have hjudge : judge missing method (some reply) = .ok reply := by simp [judge, hstatus]
      dsimp only at hrest
      rw [hjudge] at hrest
      exact .inr ⟨reply, es', haccepted.2 hstatus, rfl, hrest⟩
    · have hjudge : judge missing method (some reply) =
          .error (.status reply.status (reply.content method)) := by simp [judge, hstatus]
      dsimp only at hrest
      rw [hjudge] at hrest
      obtain ⟨rfl, -, rfl⟩ := Course.ends_done.1 hrest
      exact .inl ⟨⟨_, some reply⟩, rfl, mt haccepted.1 hstatus, rfl, rfl⟩

/-- The only request of an attempt: its reply is not accepted, or it makes the result. -/
theorem cases_of_ends_send_last {f : Reply → Attempt α} {g : Reply → Except EngineError α}
    (hmissing : mayMiss call method = missing)
    (hf : ∀ reply es ls r, (f reply).run.Ends es ls r → es = [] ∧ r = g reply)
    (h : (client.send missing method target body >>= f).run.Ends es ls r) :
    (∃ e, e.1 = client.request method target body ∧ ¬ Accepted call e ∧ es = [e] ∧
      r = .error (rejection e)) ∨
    ∃ reply, Accepted call ⟨client.request method target body, some reply⟩ ∧
      es = [⟨client.request method target body, some reply⟩] ∧ r = g reply := by
  obtain hrejected | ⟨reply, es', haccepted, rfl, hrest⟩ := cases_of_ends_send hmissing h
  · exact .inl hrejected
  · obtain ⟨rfl, rfl⟩ := hf reply es' ls r hrest
    exact .inr ⟨reply, haccepted, rfl, rfl⟩

/-- A value that is there already, or a failure, is what an attempt goes on with. -/
theorem ends_mk_bind {β : Type} {x : Except EngineError β} {f : β → Attempt α}
    (h : ((.mk (pure x) : Attempt β) >>= f).run.Ends es ls r) :
    (∃ e, x = .error e ∧ es = [] ∧ r = .error e) ∨ ∃ b, x = .ok b ∧ (f b).run.Ends es ls r := by
  cases x with
  | error e =>
    obtain ⟨rfl, -, rfl⟩ := Course.ends_done.1 h
    exact .inl ⟨e, rfl, rfl, rfl⟩
  | ok b => exact .inr ⟨b, rfl, h⟩

/-- A result that is there already asks for nothing. -/
theorem ends_mk {x : Except EngineError α} (h : (.mk (pure x) : Attempt α).run.Ends es ls r) :
    es = [] ∧ r = x := by
  obtain ⟨rfl, -, rfl⟩ := Course.ends_done.1 h
  exact ⟨rfl, rfl⟩

section Bodies

variable {β : Type} {fields : Json.FieldList} {ofJson? : Json → Option β} {reply : Reply}

theorem readReply_of_some {b : β} (h : decode? fields ofJson? (reply.content method) = some b) :
    readReply fields ofJson? method reply = .ok b := by
  rw [decode?] at h
  rw [readReply, h]

theorem readReply_of_none (h : decode? fields ofJson? (reply.content method) = none) :
    readReply fields ofJson? method reply = .error (.transport "unreadable reply") := by
  rw [decode?] at h
  rw [readReply, h]

/-- Reading a body succeeds just if it denotes something. -/
theorem exists_readReply_eq_ok_iff :
    (∃ b, readReply fields ofJson? method reply = .ok b) ↔
      (decode? fields ofJson? (reply.content method)).isSome = true := by
  cases h : decode? fields ofJson? (reply.content method) with
  | none => simp [readReply_of_none h]
  | some b => simp [readReply_of_some h]

/-- Where what is read makes no failure of the transport, it is the body that cannot be read. -/
theorem exists_readReply_bind_eq_transport_iff {f : β → Except EngineError α}
    (hf : ∀ b reason, f b ≠ .error (.transport reason)) :
    (∃ reason, (readReply fields ofJson? method reply >>= f) = .error (.transport reason)) ↔
      ¬ (decode? fields ofJson? (reply.content method)).isSome = true := by
  cases h : decode? fields ofJson? (reply.content method) with
  | none => simp [readReply_of_none h, bind, Except.bind]
  | some b => simp [readReply_of_some h, bind, Except.bind, hf]

end Bodies

/-! ## All requests of the engine -/

/-- The requests that one of the engine consists of. -/
def requests (client : EngineClient) : EngineCall → List Request
  | .createIndex name mapping => [client.request .put ("/" ++ segment name) [mapping]]
  | .indexExists name => [client.request .head ("/" ++ segment name) []]
  | .indexDocuments batch =>
    if bulkLines batch = [] then [] else [client.request .post "/_bulk" (bulkLines batch)]
  | .updateDocument index id fields =>
    [client.request .post ("/" ++ segment index ++ "/_update/" ++ segment id) [mergeBody fields]]
  | .updateDocuments index field value query =>
    [client.request .post ("/" ++ segment index ++ "/_update_by_query?conflicts=proceed")
      [updateBody field value query]]
  | .documentExists index id => [client.request .head (documentTarget index id) []]
  | .deleteDocument index id =>
    [client.request .head (documentTarget index id) [],
     client.request .delete (documentTarget index id) []]
  | .deleteDocuments index query =>
    [client.request .post ("/" ++ segment index ++ "/_delete_by_query?conflicts=proceed")
      [deleteBody query]]
  | .search pattern targets =>
    if targets = [] then [] else [client.request .post "/_msearch" (searchLines pattern targets)]
  | .ping => [client.request .head "/" []]

/-- A look at an index or a document: there is none just if 404 is replied. -/
def Tells (es : List Exchange) (r : Except EngineError Bool) : Prop :=
  (r = .ok false ↔ ∃ request reply, es = [⟨request, some reply⟩] ∧ reply.status = 404) ∧
  (r = .ok true ↔
    ∃ request reply, es = [⟨request, some reply⟩] ∧ 200 ≤ reply.status ∧ reply.status ≤ 208)

/-- The removal of a document: it is asked for just if the look at the document was accepted and
did not tell that it is missing, and it succeeds just if every reply is accepted. -/
def Removes (call : EngineCall) (es : List Exchange) (r : Except EngineError Unit) : Prop :=
  ((∃ e ∈ es, e.1.method = .delete) ↔
    ∃ request reply rest, es = ⟨request, some reply⟩ :: rest ∧ request.method = .head ∧
      Accepted call ⟨request, some reply⟩ ∧ reply.status ≠ 404) ∧
  (r = .ok () ↔ ∀ e ∈ es, Accepted call e)

/-- What a request of the engine comes to, by its kind. -/
def Concludes : (call : EngineCall) → List Exchange → Except EngineError call.Value → Prop
  | .indexExists _, es, r => Tells es r
  | .documentExists _ _, es, r => Tells es r
  | .deleteDocument index id, es, r => Removes (.deleteDocument index id) es r
  | .indexDocuments batch, es, r =>
    (es = [] ↔ ∀ entry ∈ batch.entries, entry.2 = []) ∧ (es = [] → r = .ok ())
  | .search _ targets, es, r => (es = [] ↔ targets = []) ∧ (es = [] → r = .ok [])
  | .createIndex name mapping, es, r =>
    r = .ok () ↔ ∀ e ∈ es, Accepted (.createIndex name mapping) e
  | .updateDocument index id fields, es, r =>
    r = .ok () ↔ ∀ e ∈ es, Accepted (.updateDocument index id fields) e
  | .ping, es, r => r = .ok () ↔ ∀ e ∈ es, Accepted .ping e
  | .updateDocuments index field value query, es, r =>
    (∃ outcome, r = .ok outcome) ↔
      ∀ e ∈ es, Accepted (.updateDocuments index field value query) e ∧
        ¬ Lost (.updateDocuments index field value query) e
  | .deleteDocuments index query, es, r =>
    (∃ outcome, r = .ok outcome) ↔
      ∀ e ∈ es, Accepted (.deleteDocuments index query) e ∧ ¬ Lost (.deleteDocuments index query) e

/-- A request of the engine obeys the rule, sends its own requests in their order, the first of them
whenever there is one, and comes to what its kind says. -/
structure Validated (client : EngineClient) (call : EngineCall) (es : List Exchange)
    (r : Except EngineError call.Value) : Prop extends Checked call es r where
  sent : es.map (·.1) <+: client.requests call
  started : es = [] ↔ client.requests call = []
  concluded : Concludes call es r

/-! ## One lemma per kind of request -/

/-- What can be exchanged for one request: its reply is not accepted, or it makes the result. -/
def Single (call : EngineCall) (request : Request) (g : Reply → Except EngineError α)
    (es : List Exchange) (r : Except EngineError α) : Prop :=
  (∃ e, e.1 = request ∧ ¬ Accepted call e ∧ es = [e] ∧ r = .error (rejection e)) ∨
  ∃ reply, Accepted call ⟨request, some reply⟩ ∧ es = [⟨request, some reply⟩] ∧ r = g reply

namespace Single

variable {request : Request} {g : Reply → Except EngineError α}

/-- One request obeys the rule if only a body that cannot be read fails in transport. -/
theorem checked (h : Single call request g es r)
    (hg : ∀ reply, (∃ reason, g reply = .error (.transport reason)) ↔
      ¬ Readable call (reply.content request.method)) : Checked call es r := by
  obtain ⟨e, -, he, rfl, rfl⟩ | ⟨reply, he, rfl, rfl⟩ := h
  · exact .rejected he
  · exact .accepted he (hg reply)

theorem sent (h : Single call request g es r) : es.map (·.1) = [request] := by
  obtain ⟨e, rfl, -, rfl, -⟩ | ⟨reply, -, rfl, -⟩ := h
  · rfl
  · rfl

theorem ne_nil (h : Single call request g es r) : es ≠ [] := by
  intro hnil
  have hsent := h.sent
  simp [hnil] at hsent

/-- Where no body is read, a request succeeds if its reply is accepted. -/
theorem ok_iff {r : Except EngineError Unit} (h : Single call request (fun _ => .ok ()) es r) :
    r = .ok () ↔ ∀ e ∈ es, Accepted call e := by
  obtain ⟨e, -, he, rfl, rfl⟩ | ⟨reply, he, rfl, rfl⟩ := h
  · simp [he]
  · simp [he]

/-- A look at something tells what the status of its reply does. -/
theorem tells {r : Except EngineError Bool} (hmiss : mayMiss call request.method = true)
    (h : Single call request (fun reply => .ok (reply.status != 404)) es r) : Tells es r := by
  obtain ⟨e, rfl, he, rfl, rfl⟩ | ⟨reply, he, rfl, rfl⟩ := h
  · -- A reply that tells something would have been accepted.
    have hnone : ∀ request reply, [e] = [(⟨request, some reply⟩ : Exchange)] →
        reply.status ≠ 404 ∧ ¬ (200 ≤ reply.status ∧ reply.status ≤ 208) := by
      intro request reply heq
      obtain rfl := List.singleton_inj.1 heq
      exact ⟨fun h => he ⟨reply, rfl, .inr ⟨h, hmiss⟩⟩, fun h => he ⟨reply, rfl, .inl h⟩⟩
    constructor
    · refine iff_of_false (by simp) ?_
      rintro ⟨request, reply, heq, hstatus⟩
      exact (hnone request reply heq).1 hstatus
    · refine iff_of_false (by simp) ?_
      rintro ⟨request, reply, heq, hstatus⟩
      exact (hnone request reply heq).2 hstatus
  · obtain ⟨reply', heq, hstatus⟩ := he
    obtain rfl : reply = reply' := Option.some.inj heq
    constructor
    · constructor
      · intro h
        exact ⟨request, reply, rfl, by simpa using h⟩
      · rintro ⟨request', reply', heq, h404⟩
        cases heq
        simp [h404]
    · constructor
      · intro h
        have h404 : reply.status ≠ 404 := by simpa using h
        exact ⟨request, reply, rfl, hstatus.resolve_right fun h => h404 h.1⟩
      · rintro ⟨request', reply', heq, hrange⟩
        cases heq
        have h404 : reply.status ≠ 404 := by omega
        simp [h404]

/-- Where a body is read and nothing else can fail, a request succeeds if its reply is accepted
and can be read. -/
theorem exists_ok_iff (h : Single call request g es r)
    (hg : ∀ reply, (∃ a, g reply = .ok a) ↔ Readable call (reply.content request.method)) :
    (∃ a, r = .ok a) ↔ ∀ e ∈ es, Accepted call e ∧ ¬ Lost call e := by
  obtain ⟨e, -, he, rfl, rfl⟩ | ⟨reply, he, rfl, rfl⟩ := h
  · simp [he]
  · simp [hg, he, Lost]

end Single

/-- Where no body is read, a request of the engine is one request. -/
theorem single_of_ends_unread {r : Except EngineError Unit} (hmiss : mayMiss call method = missing)
    (h : (client.send missing method target body >>= fun _ => pure ()).run.Ends es ls r) :
    Single call (client.request method target body) (fun _ => .ok ()) es r :=
  cases_of_ends_send_last hmiss (fun _ _ _ _ => ends_mk) h

/-- A look at a target is one request. -/
theorem single_of_ends_exists {r : Except EngineError Bool} (hmiss : mayMiss call .head = true)
    (h : (client.exists? target).run.Ends es ls r) :
    Single call (client.request .head target []) (fun reply => .ok (reply.status != 404)) es r :=
  cases_of_ends_send_last hmiss (fun _ _ _ _ => ends_mk) h

/-- A change by query is one request, and its reply is read. -/
theorem single_of_ends_byQuery {query : Json} {r : Except EngineError ByQueryOutcome}
    (hmiss : mayMiss call .post = false) (h : (client.byQuery target query).run.Ends es ls r) :
    Single call (client.request .post target [query])
      (readReply byQueryFields byQueryOutcome? .post) es r :=
  cases_of_ends_send_last hmiss (fun _ _ _ _ => ends_mk) h

/-- A bulk request is one request, and its reply is read and looked through. -/
theorem single_of_ends_indexDocuments {batch : BulkBatch} {r : Except EngineError Unit}
    (hlines : bulkLines batch ≠ []) (h : (client.indexDocuments batch).run.Ends es ls r) :
    Single (.indexDocuments batch) (client.request .post "/_bulk" (bulkLines batch))
      (fun reply => readReply BulkReply.fields BulkReply.ofJson? .post reply >>= fun result =>
        if result.rejections = [] then .ok ()
        else .error (.bulkFailure result.rejections)) es r := by
  rw [indexDocuments] at h
  simp only [List.isEmpty_iff, hlines, if_false] at h
  refine cases_of_ends_send_last rfl (fun reply es ls r hread => ?_) h
  obtain ⟨e, he, rfl, rfl⟩ | ⟨result, hresult, hlast⟩ := ends_mk_bind hread
  · rw [he]
    exact ⟨rfl, rfl⟩
  · rw [hresult]
    show es = [] ∧ r = if result.rejections = [] then _ else _
    -- The client looks at the first rejection only to see whether there is one.
    cases hrejections : result.rejections with
    | nil =>
      rw [hrejections] at hlast
      obtain ⟨rfl, -, rfl⟩ := Course.ends_done.1 hlast
      exact ⟨rfl, rfl⟩
    | cons rejection rejections =>
      rw [hrejections] at hlast
      obtain ⟨rfl, -, rfl⟩ := Course.ends_done.1 hlast
      exact ⟨rfl, rfl⟩

/-- A search is one request, and its reply is read and taken apart. -/
theorem single_of_ends_search {pattern : String} {targets : List IndexFields}
    {r : Except EngineError (List (List SearchHit))}
    (htargets : targets ≠ []) (h : (client.search pattern targets).run.Ends es ls r) :
    Single (.search pattern targets)
      (client.request .post "/_msearch" (searchLines pattern targets))
      (fun reply => readReply searchRepliesFields searchReplies? .post reply >>= fun replies =>
        hitLists targets.length replies) es r := by
  rw [search] at h
  simp only [List.isEmpty_iff, htargets, if_false] at h
  refine cases_of_ends_send_last rfl (fun reply es ls r hread => ?_) h
  obtain ⟨e, he, rfl, rfl⟩ | ⟨replies, hreplies, hlast⟩ := ends_mk_bind hread
  · rw [he]
    exact ⟨rfl, rfl⟩
  · rw [hreplies]
    exact ends_mk hlast

/-- The removal of a document is one request where the look at the document ends it, and two
where the document is there. -/
theorem cases_of_ends_deleteDocument {index id : String} {r : Except EngineError Unit}
    (h : (client.deleteDocument index id).run.Ends es ls r) :
    (∃ e, e.1 = client.request .head (documentTarget index id) [] ∧
      ¬ Accepted (.deleteDocument index id) e ∧ es = [e] ∧ r = .error (rejection e)) ∨
    (∃ reply, Accepted (.deleteDocument index id)
        ⟨client.request .head (documentTarget index id) [], some reply⟩ ∧ reply.status = 404 ∧
      es = [⟨client.request .head (documentTarget index id) [], some reply⟩] ∧ r = .ok ()) ∨
    ∃ reply es', Accepted (.deleteDocument index id)
        ⟨client.request .head (documentTarget index id) [], some reply⟩ ∧ reply.status ≠ 404 ∧
      es = ⟨client.request .head (documentTarget index id) [], some reply⟩ :: es' ∧
      Single (.deleteDocument index id) (client.request .delete (documentTarget index id) [])
        (fun _ => .ok ()) es' r := by
  rw [deleteDocument, exists?, bind_assoc] at h
  have hmiss : mayMiss (.deleteDocument index id) .head = true := rfl
  obtain ⟨e, hrequest, he, rfl, rfl⟩ | ⟨reply, es', he, rfl, hrest⟩ := cases_of_ends_send hmiss h
  · exact .inl ⟨e, hrequest, he, rfl, rfl⟩
  · rw [pure_bind] at hrest
    -- Of a document that is missing nothing has to be removed.
    by_cases h404 : reply.status = 404
    · simp only [h404, bne_self_eq_false] at hrest
      obtain ⟨rfl, -, rfl⟩ := Course.ends_done.1 hrest
      exact .inr (.inl ⟨reply, he, h404, rfl, rfl⟩)
    · simp only [bne_iff_ne, ne_eq, h404, not_false_eq_true, if_true] at hrest
      refine .inr (.inr ⟨reply, es', he, h404, rfl, ?_⟩)
      exact cases_of_ends_send_last rfl (fun _ _ _ _ => ends_mk) hrest

/-- Lists of hits do not fail in transport. -/
theorem hitLists_ne_transport (expected : Nat) (replies : List SearchReply) (reason : String) :
    hitLists expected replies ≠ .error (.transport reason) := by
  intro h
  rw [hitLists] at h
  split at h
  · obtain ⟨reply, -, hreply⟩ := exists_of_mapM_eq_error h
    rw [SearchReply.outcome] at hreply
    split at hreply <;> cases hreply
  · cases h

/-! ## Every request of the engine -/

/-- A request of the engine that is one request to the server is sent. -/
theorem Single.validated {request : Request} {r : Except EngineError call.Value}
    {g : Reply → Except EngineError call.Value} (h : Single call request g es r)
    (hrequests : client.requests call = [request]) (hchecked : Checked call es r)
    (hconcluded : Concludes call es r) : Validated client call es r where
  toChecked := hchecked
  sent := by simp [h.sent, hrequests]
  started := iff_of_false h.ne_nil (by simp [hrequests])
  concluded := hconcluded

/-- A request whose reply is not read obeys the rule. -/
theorem Single.checked_unread {request : Request} {g : Reply → α}
    (hreadable : ∀ body, Readable call body)
    (h : Single call request (fun reply => .ok (g reply)) es r) : Checked call es r :=
  h.checked fun reply => by simp [hreadable]

/-- A request that changes or removes documents by query obeys the rule. -/
theorem Single.checked_byQuery {request : Request} {r : Except EngineError ByQueryOutcome}
    (hreadable : ∀ body, Readable call body ↔
      (decode? byQueryFields byQueryOutcome? body).isSome = true)
    (hmethod : request.method = .post)
    (h : Single call request (readReply byQueryFields byQueryOutcome? .post) es r) :
    Checked call es r := by
  refine h.checked fun reply => ?_
  rw [hreadable, hmethod, ← bind_pure (readReply byQueryFields byQueryOutcome? .post reply)]
  exact exists_readReply_bind_eq_transport_iff fun b reason => by simp [pure, Except.pure]

/-- A bulk request has no lines just if it has no documents. -/
theorem bulkLines_eq_nil_iff {batch : BulkBatch} :
    bulkLines batch = [] ↔ ∀ entry ∈ batch.entries, entry.2 = [] := by
  -- Two lines for each document, so there are none just where there are no documents.
  have hlines (index : String) (ds : List BulkDocument) :
      ds.flatMap (documentLines index) = [] ↔ ds = [] := by
    cases ds <;> simp [documentLines]
  simp [bulkLines, hlines]

/-- A bulk request is validated; without documents it sends nothing and succeeds. -/
private theorem validated_indexDocuments {batch : BulkBatch} {r : Except EngineError Unit}
    (h : (client.indexDocuments batch).run.Ends es ls r) :
    Validated client (.indexDocuments batch) es r := by
  by_cases hlines : bulkLines batch = []
  · rw [indexDocuments] at h
    simp only [hlines, List.isEmpty_nil, if_true] at h
    obtain ⟨rfl, -, rfl⟩ := Course.ends_done.1 h
    refine ⟨.nil (), by simp, by simp [requests, hlines], ?_⟩
    simpa [Concludes] using bulkLines_eq_nil_iff.1 hlines
  · have hsingle := single_of_ends_indexDocuments hlines h
    refine hsingle.validated (if_neg hlines) (hsingle.checked fun reply => ?_) ?_
    · refine exists_readReply_bind_eq_transport_iff fun result reason => ?_
      split <;> simp
    · -- There are documents, so a request was sent.
      have hne := hsingle.ne_nil
      exact ⟨iff_of_false hne (mt bulkLines_eq_nil_iff.2 hlines), fun hnil => absurd hnil hne⟩

/-- A search is validated; without indices to look at it sends nothing and finds nothing. -/
private theorem validated_search {pattern : String} {targets : List IndexFields}
    {r : Except EngineError (List (List SearchHit))}
    (h : (client.search pattern targets).run.Ends es ls r) :
    Validated client (.search pattern targets) es r := by
  by_cases htargets : targets = []
  · rw [search] at h
    simp only [htargets, List.isEmpty_nil, if_true] at h
    obtain ⟨rfl, -, rfl⟩ := Course.ends_done.1 h
    exact ⟨.nil [], by simp, by simp [requests, htargets], by simp [Concludes, htargets]⟩
  · have hsingle := single_of_ends_search htargets h
    refine hsingle.validated (if_neg htargets) (hsingle.checked fun reply => ?_) ?_
    · exact exists_readReply_bind_eq_transport_iff (hitLists_ne_transport _)
    · have hne := hsingle.ne_nil
      exact ⟨iff_of_false hne htargets, fun hnil => absurd hnil hne⟩

/-- The removal of a document is validated, both its requests. -/
private theorem validated_deleteDocument {index id : String} {r : Except EngineError Unit}
    (h : (client.deleteDocument index id).run.Ends es ls r) :
    Validated client (.deleteDocument index id) es r := by
  obtain ⟨e, hrequest, he, rfl, rfl⟩ | ⟨reply, he, h404, rfl, rfl⟩ |
    ⟨reply, es', he, h404, rfl, hsingle⟩ := cases_of_ends_deleteDocument h
  · refine ⟨.rejected he, by simp [hrequest, requests], by simp [requests], ?_, by simp [he]⟩
    refine iff_of_false (by simp [hrequest, request]) ?_
    rintro ⟨request', reply', rest, heq, -, he', -⟩
    cases heq
    exact he he'
  · refine ⟨.accepted he (by simp [Readable]), by simp [requests], by simp [requests], ?_,
      by simp [he]⟩
    refine iff_of_false (by simp [request]) ?_
    rintro ⟨request', reply', rest, heq, -, -, hne⟩
    cases heq
    exact hne h404
  · refine ⟨.cons he (by simp [Lost, Readable]) (hsingle.checked_unread fun _ => trivial), ?_,
      by simp [requests], ?_, ?_⟩
    · simp [hsingle.sent, requests]
    · -- The removal itself is the second request, whatever is replied to it.
      refine iff_of_true ?_ ⟨_, reply, es', rfl, rfl, he, h404⟩
      obtain ⟨e, hrequest, -, rfl, -⟩ | ⟨reply', -, rfl, -⟩ := hsingle
      · exact ⟨e, List.mem_cons_of_mem _ List.mem_cons_self, by rw [hrequest]; rfl⟩
      · exact ⟨_, List.mem_cons_of_mem _ List.mem_cons_self, rfl⟩
    · rw [hsingle.ok_iff, List.forall_mem_cons, and_iff_right he]

/-- Whatever is replied, a request of the engine is validated. -/
theorem validated_of_ends {r : Except EngineError call.Value}
    (h : (client.perform call).run.Ends es ls r) : Validated client call es r := by
  -- Whether 404 is an answer is settled by the kind of request and its method.
  cases call with
  | createIndex name mapping =>
    have hmiss : mayMiss (.createIndex name mapping) .put = false := rfl
    have hsingle := single_of_ends_unread hmiss h
    exact hsingle.validated rfl (hsingle.checked_unread fun _ => trivial) hsingle.ok_iff
  | indexExists name =>
    have hmiss : mayMiss (.indexExists name) .head = true := rfl
    have hsingle := single_of_ends_exists hmiss h
    exact hsingle.validated rfl (hsingle.checked_unread fun _ => trivial) (hsingle.tells hmiss)
  | indexDocuments batch => exact validated_indexDocuments h
  | updateDocument index id fields =>
    have hmiss : mayMiss (.updateDocument index id fields) .post = false := rfl
    have hsingle := single_of_ends_unread hmiss h
    exact hsingle.validated rfl (hsingle.checked_unread fun _ => trivial) hsingle.ok_iff
  | updateDocuments index field value query =>
    have hmiss : mayMiss (.updateDocuments index field value query) .post = false := rfl
    have hsingle := single_of_ends_byQuery hmiss h
    exact hsingle.validated rfl (hsingle.checked_byQuery (fun _ => Iff.rfl) rfl)
      (hsingle.exists_ok_iff fun _ => exists_readReply_eq_ok_iff)
  | documentExists index id =>
    have hmiss : mayMiss (.documentExists index id) .head = true := rfl
    have hsingle := single_of_ends_exists hmiss h
    exact hsingle.validated rfl (hsingle.checked_unread fun _ => trivial) (hsingle.tells hmiss)
  | deleteDocument index id => exact validated_deleteDocument h
  | deleteDocuments index query =>
    have hmiss : mayMiss (.deleteDocuments index query) .post = false := rfl
    have hsingle := single_of_ends_byQuery hmiss h
    exact hsingle.validated rfl (hsingle.checked_byQuery (fun _ => Iff.rfl) rfl)
      (hsingle.exists_ok_iff fun _ => exists_readReply_eq_ok_iff)
  | search pattern targets => exact validated_search h
  | ping =>
    have hmiss : mayMiss .ping .head = false := rfl
    have hsingle := single_of_ends_unread hmiss h
    exact hsingle.validated rfl (hsingle.checked_unread fun _ => trivial) hsingle.ok_iff

/-! ## Against a list of replies -/

/-- Requests with the replies to them: each takes the next one, as long as there is one. -/
def exchanged : List Request → List Reply → List Exchange
  | [], _ => []
  | request :: requests, replies => ⟨request, replies.head?⟩ :: exchanged requests replies.tail

/-- A server that replies from a list has these exchanges. -/
theorem exchanges_eq_exchanged (p : Course Request (fun _ => Option Reply) α)
    (replies : List Reply) (received : List Request) :
    ∃ sent, (p.run Server.handler ⟨some replies, received⟩).state.received = received ++ sent ∧
      p.exchanges Server.handler ⟨some replies, received⟩ = exchanged sent replies := by
  induction p generalizing replies received with
  | done a => exact ⟨[], (List.append_nil received).symm, rfl⟩
  | call request next ih =>
    -- A server without replies stays one and still receives what is sent.
    obtain ⟨sent, hreceived, hexchanges⟩ := ih replies.head? replies.tail (received ++ [request])
    refine ⟨request :: sent, ?_, ?_⟩
    · cases replies <;> simpa [Course.run, Run.afterCall, Server.handler] using hreceived
    · cases replies <;> simpa [Course.exchanges, exchanged, Server.handler] using hexchanges
  | log record next ih => exact ih replies received

/-- One exchange has the first reply. -/
theorem eq_of_exchanged_eq_singleton {sent : List Request} {reply : Reply} {replies : List Reply}
    (h : exchanged sent (reply :: replies) = [e]) : sent = [e.1] ∧ e.2 = some reply := by
  cases sent with
  | nil => cases h
  | cons request sent =>
    obtain ⟨rfl, hrest⟩ := List.cons.inj h
    cases sent with
    | nil => exact ⟨rfl, rfl⟩
    | cons request' sent => cases hrest

/-- A course of one request takes the first reply, which makes the result if it is accepted. -/
theorem run_of_single (p : Course Request (fun _ => Option Reply) (Except EngineError α))
    {request : Request} {g : Reply → Except EngineError α}
    (hsingle : ∀ es ls r, p.Ends es ls r → Single call request g es r) {reply : Reply}
    (hstatus : 200 ≤ reply.status ∧ reply.status ≤ 208) (replies : List Reply) :
    (p.run Server.handler (.ofReplies (reply :: replies))).value = g reply ∧
      (p.run Server.handler (.ofReplies (reply :: replies))).state.received = [request] := by
  obtain ⟨sent, hreceived, hexchanges⟩ := exchanges_eq_exchanged p (reply :: replies) []
  have hends := Course.ends_exchanges Server.handler p (.ofReplies (reply :: replies))
  obtain ⟨e, hrequest, hrefused, he, -⟩ | ⟨reply', -, he, hvalue⟩ := hsingle _ _ _ hends
  · obtain ⟨-, hreply⟩ := eq_of_exchanged_eq_singleton (hexchanges.symm.trans he)
    exact absurd ⟨reply, hreply, .inl hstatus⟩ hrefused
  · -- What was exchanged is the request and the first reply.
    obtain ⟨rfl, hreply⟩ := eq_of_exchanged_eq_singleton (hexchanges.symm.trans he)
    obtain rfl : reply' = reply := Option.some.inj hreply
    exact ⟨hvalue, hreceived⟩

/-- Every request of the engine obeys the rule, against every list of replies. -/
theorem validated_runAgainst (client : EngineClient) (call : EngineCall) (replies : List Reply) :
    Validated client call
      (exchanged (client.runAgainst call (.ofReplies replies)).2.received replies)
      (client.runAgainst call (.ofReplies replies)).1 := by
  obtain ⟨sent, hreceived, hexchanges⟩ :=
    exchanges_eq_exchanged (client.perform call).run replies []
  have hends := Course.ends_exchanges Server.handler (client.perform call).run (.ofReplies replies)
  have hsent : (client.runAgainst call (.ofReplies replies)).2.received = sent := hreceived
  rw [hsent, ← hexchanges]
  exact validated_of_ends hends

example : (EngineClient.runAgainst ⟨"", none⟩ (.deleteDocument "messages" "$1")
    (.ofReplies [⟨208, ""⟩, ⟨209, "gone"⟩])).1 = .error (.status 209 "gone") := rfl

end ChatIndex.EngineClient
