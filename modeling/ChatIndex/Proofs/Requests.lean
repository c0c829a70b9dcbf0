import ChatIndex.Proofs.Documents
import ChatIndex.Proofs.Handling
import ChatIndex.Proofs.Restoring

/-!
# Which requests are made

All requests that an event and a restore can make to the engine, each with what the read model
had to say before.  Of them only four write: a property of all documents is kept by events and
restores if the documents that these four write have it (`Request.keeps`), so a statement about all
runs looks at no course of requests.

* `apply_induction`    what the carrying out of a change is made of
* `Handling.request`   the requests of an event
* `Restoring.request`  the requests of a restore
* `Request.keeps`      what either has to write to keep a property
-/

namespace ChatIndex

/-- The document of a message names its room. -/
theorem MessageDocument.get?_toDocument_roomId (message : MessageDocument) :
    message.toDocument.get? "room_id" = some (.string message.roomId) := by
  simp [toDocument, KeyMap.get?_ofList]

/-- Whether the engine carries a request out whatever it holds, as long as it rejects no ids. -/
def EngineCall.Unconditional : EngineCall → Prop
  | .createIndex .. | .updateDocument .. => False
  | .indexDocuments batch => ∀ e ∈ batch.entries, ∀ b ∈ e.2, b.action = .index
  | _ => True

/-! ## Events -/

namespace Sync

/-- A request to the engine that an event can make, after exchanges in which the read model spoke
for it. -/
inductive Request (s : SyncSettings) (es : List Exchange) : EngineCall → Prop
  | lookUp (roomId : String) : Request s es (.documentExists s.indices.rooms roomId)
  | removeRoom (roomId : String) : Request s es (.deleteDocument s.indices.rooms roomId)
  | removeMessage (eventId : String) : Request s es (.deleteDocument s.indices.messages eventId)
  | removeMessages (roomId : String) : Request s es (removalCall s roomId)
  | rename {room : RoomDetail} (roomId name : String)
      (hroom : (⟨.read (.roomDetail roomId), .ok room⟩ : Exchange) ∈ es)
      (hclear : room.isClear = true) : Request s es (renameCall s roomId (some name))
  | write {room : RoomDetail} {displayName : Option String} (roomId eventId sender body : String)
      (indexed : Bool)
      (hredacted : (⟨.read (.isRedacted eventId), .ok false⟩ : Exchange) ∈ es)
      (hroom : (⟨.read (.roomDetail roomId), .ok room⟩ : Exchange) ∈ es)
      (hclear : room.isClear = true) :
      Request s es
        (.indexDocuments (messageBatch s ⟨eventId, roomId, body, sender, displayName⟩ room indexed))
  | edit (target body : String) : Request s es (editCall s target body)
  | setDisplayName (roomId userId displayName : String) :
      Request s es (displayNameCall s roomId userId displayName)

variable {s : SyncSettings}

/-- An event makes no other requests. -/
theorem Handling.request {c : Change} {es : List Exchange} {ls : List LogRecord}
    {r : Except CallError SyncOutcome} (h : Handling s c es ls r) :
    ∀ call ∈ engineCalls es, Request s es call := by
  cases h with
  | named roomId name room answer hclear =>
    exact List.forall_mem_singleton.2 (.rename roomId name List.mem_cons_self hclear)
  | unnamed roomId room answer hclear =>
    exact List.forall_mem_singleton.2 (.removeRoom roomId)
  | roomKept roomId algorithm e => exact List.forall_mem_singleton.2 (.removeRoom roomId)
  | messagesKept roomId algorithm e | encrypted roomId algorithm outcome =>
    exact List.forall_mem_cons.2
      ⟨.removeRoom roomId, List.forall_mem_singleton.2 (.removeMessages roomId)⟩
  -- However far a message gets, the first request asks whether its room has a document.
  | indexUnread roomId | redactionUnread roomId | redacted roomId | roomUnread roomId
  | messageSkipped roomId =>
    exact List.forall_mem_singleton.2 (.lookUp roomId)
  | written roomId eventId sender body displayName indexed room answer hclear =>
    refine List.forall_mem_cons.2 ⟨.lookUp roomId, List.forall_mem_singleton.2 ?_⟩
    exact .write roomId eventId sender body indexed (by simp) (by simp) hclear
  | edited roomId target body answer => exact List.forall_mem_singleton.2 (.edit target body)
  | removed roomId eventId answer => exact List.forall_mem_singleton.2 (.removeMessage eventId)
  | displayNameKept roomId userId displayName | displayNameWritten roomId userId displayName =>
    exact List.forall_mem_singleton.2 (.setDisplayName roomId userId displayName)
  | renameUnread | renameSkipped | senderUnread =>
    exact fun call hcall => absurd hcall List.not_mem_nil

/-- What the read model said in these exchanges it also said in any more of them. -/
theorem Request.mono {es fs : List Exchange} {call : EngineCall} (h : Request s es call)
    (hsub : ∀ e ∈ es, e ∈ fs) : Request s fs call := by
  cases h with
  | rename roomId name hroom hclear => exact .rename roomId name (hsub _ hroom) hclear
  | write roomId eventId sender body indexed hredacted hroom hclear =>
    exact .write roomId eventId sender body indexed (hsub _ hredacted) (hsub _ hroom) hclear
  | lookUp roomId => exact .lookUp roomId
  | removeRoom roomId => exact .removeRoom roomId
  | removeMessage eventId => exact .removeMessage eventId
  | removeMessages roomId => exact .removeMessages roomId
  | edit target body => exact .edit target body
  | setDisplayName roomId userId displayName => exact .setDisplayName roomId userId displayName

/-- The entries of the request for a message: its document and perhaps that of its room. -/
theorem mem_messageBatch {message : MessageDocument} {room : RoomDetail} {indexed : Bool}
    {e : String × List BulkDocument} (he : e ∈ (messageBatch s message room indexed).entries) :
    e = (s.indices.messages, [message.entry]) ∨
      ∃ name, e = (s.indices.rooms, [RoomDocument.entry ⟨message.roomId, name⟩]) := by
  unfold messageBatch at he
  dsimp only at he
  split at he
  · next name _ =>
    split at he
    · exact .inl (List.mem_singleton.1 he)
    · obtain rfl | he := Entries.mem_insert he
      · exact .inr ⟨name, rfl⟩
      · exact .inl (List.mem_singleton.1 he)
  · exact .inl (List.mem_singleton.1 he)

/-- The bulk request for a message writes over whatever there is. -/
theorem unconditional_messageBatch {message : MessageDocument} {room : RoomDetail}
    {indexed : Bool} :
    (EngineCall.indexDocuments (messageBatch s message room indexed)).Unconditional := by
  -- Whichever of the two entries it is, its one document is written over any there is.
  intro e he b hb
  obtain rfl | ⟨name, rfl⟩ := mem_messageBatch he <;> cases List.mem_singleton.1 hb <;> rfl

/-- A rename is carried out whatever there is. -/
theorem unconditional_renameCall (roomId : String) (name : Option String) :
    (renameCall s roomId name).Unconditional := by
  cases name with
  | some name =>
    intro e he b hb
    cases List.mem_singleton.1 he
    cases List.mem_singleton.1 hb
    rfl
  | none => exact trivial

/-- Of the requests of an event only an edit depends on what the engine holds. -/
theorem Request.unconditional_or_edit {es : List Exchange} {call : EngineCall}
    (h : Request s es call) :
    call.Unconditional ∨ ∃ target body, call = editCall s target body := by
  cases h with
  | edit target body => exact .inr ⟨target, body, rfl⟩
  | rename roomId name => exact .inl (unconditional_renameCall roomId (some name))
  | write => exact .inl unconditional_messageBatch
  | lookUp | removeRoom | removeMessage | removeMessages | setDisplayName => exact .inl trivial

/-- What single requests and log records have and what is kept when one attempt follows another,
the carrying out of a change has.  Of its requests to the engine only an edit depends on what the
engine holds. -/
theorem apply_induction {P : {α : Type} → Attempt CallError α → Prop} (c : Change)
    (pure : ∀ {α : Type} (a : α), P (Pure.pure a : Attempt CallError α))
    (record : ∀ level message fields,
      P (Attempt.record level message fields : Attempt CallError Unit))
    (read : ∀ call, P (Attempt.read call))
    (engine : ∀ call : EngineCall, call.Unconditional → P (Attempt.engine call))
    (edit : ∀ roomId target body, c = .messageEdited roomId target body →
      P (Attempt.engine (editCall s target body)))
    (bind : ∀ {α β : Type} {x : Attempt CallError α} {f : α → Attempt CallError β},
      P x → (∀ a, P (f a)) → P (x >>= f)) : P (apply s c) := by
  -- Each change is taken apart into its single requests and questions.
  cases c with
  | roomNameChanged roomId name =>
    refine bind (read (.roomDetail roomId)) fun room => ?_
    split
    · exact pure _
    · -- A room without a name is removed, which never depends on what there is.
      have hrename := engine (renameCall s roomId name) (unconditional_renameCall roomId name)
      cases name <;> exact bind hrename fun _ => pure _
  | roomEncrypted roomId algorithm =>
    refine bind (engine (.deleteDocument s.indices.rooms roomId) trivial) fun _ => ?_
    refine bind (engine (removalCall s roomId) trivial) fun outcome => ?_
    refine bind (record _ _ _) fun _ => ?_
    split
    · exact bind (record _ _ _) fun _ => pure _
    · exact pure _
  | messageSent roomId eventId sender body =>
    refine bind (read (.displayName roomId sender)) fun displayName => ?_
    refine bind (engine (.documentExists s.indices.rooms roomId) trivial) fun indexed => ?_
    refine bind (read (.isRedacted eventId)) fun redacted => ?_
    split
    · exact pure _
    · refine bind (read (.roomDetail roomId)) fun room => ?_
      split
      · exact pure _
      · exact bind (engine _ unconditional_messageBatch) fun _ => pure _
  | messageEdited roomId target body =>
    exact bind (edit roomId target body rfl) fun _ => pure _
  | messageRedacted roomId eventId =>
    exact bind (engine (.deleteDocument s.indices.messages eventId) trivial) fun _ => pure _
  | displayNameChanged roomId userId displayName =>
    refine bind (engine (displayNameCall s roomId userId displayName) trivial) fun outcome => ?_
    split
    · exact bind (record _ _ _) fun _ => pure _
    · exact pure _

/-- A request of an event keeps a property of all documents if the documents of clear rooms have
it, and if it does not depend on the two fields that are written later. -/
theorem Request.keeps {P : String → String → Document → Prop} {seed : Indices}
    {es : List Exchange} {call : EngineCall} (h : Request s es call)
    (hrooms : ∀ roomId name room, (⟨.read (.roomDetail roomId), .ok room⟩ : Exchange) ∈ es →
      RoomDetail.isClear room = true →
      P s.indices.rooms roomId (RoomDocument.toDocument ⟨roomId, name⟩))
    (hmessages : ∀ (message : MessageDocument) room,
      (⟨.read (.isRedacted message.id), .ok false⟩ : Exchange) ∈ es →
      (⟨.read (.roomDetail message.roomId), .ok room⟩ : Exchange) ∈ es →
      RoomDetail.isClear room = true → P s.indices.messages message.id message.toDocument)
    (hfields : ∀ id d field text, field = "content" ∨ field = "display_name" →
      P s.indices.messages id d → P s.indices.messages id (d.insert field (.string text))) :
    call.Keeps P seed := by
  cases h with
  -- What only looks up or removes writes nothing.
  | lookUp | removeRoom | removeMessage | removeMessages => exact trivial
  | rename roomId name hroom hclear =>
    intro e he b hb
    cases List.mem_singleton.1 he
    cases List.mem_singleton.1 hb
    exact hrooms roomId name _ hroom hclear
  | write roomId eventId sender body indexed hredacted hroom hclear =>
    intro e he b hb
    obtain rfl | ⟨name, rfl⟩ := mem_messageBatch he
    · cases List.mem_singleton.1 hb
      exact hmessages ⟨eventId, roomId, body, sender, _⟩ _ hredacted hroom hclear
    · cases List.mem_singleton.1 hb
      exact hrooms roomId name _ hroom hclear
  | edit target body =>
    intro d hd
    rw [KeyMap.merge_insert_empty]
    exact hfields target d "content" body (.inl rfl) hd
  | setDisplayName roomId userId displayName =>
    intro id d hd
    exact hfields id d "display_name" displayName (.inr rfl) hd

end Sync

/-! ## Restores -/

namespace Bootstrap

/-- A request to the engine that a restore can make, with the snapshot that it writes from. -/
inductive Request (names : IndexNames) (es : List Exchange) : EngineCall → Prop
  | lookUp (index : String) : Request names es (.indexExists index)
  | createRooms : Request names es (.createIndex names.rooms roomsMapping)
  | createMessages : Request names es (.createIndex names.messages messagesMapping)
  | writeRooms {rooms : List RoomName} {batch : List BulkDocument}
      (hrooms : (⟨.read .clearRoomNames, .ok rooms⟩ : Exchange) ∈ es)
      (hbatch : ∀ b ∈ batch, b ∈ rooms.map roomEntry) :
      Request names es (batchCall names.rooms batch)
  | writeMessages {messages : List RoomMessage} {batch : List BulkDocument}
      (hmessages : (⟨.read .clearRoomMessages, .ok messages⟩ : Exchange) ∈ es)
      (hbatch : ∀ b ∈ batch, b ∈ messages.map messageEntry) :
      Request names es (batchCall names.messages batch)

/-- What the snapshots held in these exchanges they also held in any more of them. -/
theorem Request.mono {names : IndexNames} {es fs : List Exchange} {call : EngineCall}
    (h : Request names es call) (hsub : ∀ e ∈ es, e ∈ fs) : Request names fs call := by
  cases h with
  | lookUp index => exact .lookUp index
  | createRooms => exact .createRooms
  | createMessages => exact .createMessages
  | writeRooms hrooms hbatch => exact .writeRooms (hsub _ hrooms) hbatch
  | writeMessages hmessages hbatch => exact .writeMessages (hsub _ hmessages) hbatch

/-- Every batch that is sent is one of those to be sent. -/
theorem Sending.exists_batch {index : String} {batches : List (List BulkDocument)}
    {es : List Exchange} {r : Except CallError (List Rejection)} (h : Sending index batches es r) :
    ∀ call ∈ engineCalls es, ∃ batch ∈ batches, call = batchCall index batch := by
  induction h with
  | done => exact fun call hcall => absurd hcall List.not_mem_nil
  | accepted batch rest ih | rejected batch rejections rest ih =>
    refine List.forall_mem_cons.2 ⟨⟨batch, List.mem_cons_self, rfl⟩, fun call hcall => ?_⟩
    obtain ⟨batch', hbatch', hcall⟩ := ih call hcall
    exact ⟨batch', List.mem_cons_of_mem batch hbatch', hcall⟩
  | broken batch batches e he =>
    exact List.forall_mem_singleton.2 ⟨batch, List.mem_cons_self, rfl⟩

/-- The requests with which one index is created and filled. -/
theorem Filling.request {batchSize : Nat} {index : String} {mapping : Json} {snapshot : ReadCall}
    {entries : snapshot.Value → List BulkDocument} {es : List Exchange}
    {r : Except CallError (Option Nat)}
    (h : Filling batchSize index mapping snapshot entries es r) :
    ∀ call ∈ engineCalls es, call = .indexExists index ∨ call = .createIndex index mapping ∨
      ∃ rows batch, (⟨.read snapshot, .ok rows⟩ : Exchange) ∈ es ∧
        (∀ b ∈ batch, b ∈ entries rows) ∧ call = batchCall index batch := by
  cases h with
  -- An index that is there, or may be, is asked about and left alone.
  | unknown e | present => exact List.forall_mem_singleton.2 (.inl rfl)
  | notCreated e | unread e =>
    exact List.forall_mem_cons.2 ⟨.inl rfl, List.forall_mem_singleton.2 (.inr (.inl rfl))⟩
  | filled rows sending =>
    refine List.forall_mem_cons.2 ⟨.inl rfl, List.forall_mem_cons.2 ⟨.inr (.inl rfl), ?_⟩⟩
    intro call hcall
    obtain ⟨batch, hbatch, rfl⟩ := sending.exists_batch call hcall
    exact .inr (.inr ⟨rows, batch, by simp, fun b => mem_of_mem_chunks hbatch, rfl⟩)

variable {batchSize : Nat} {names : IndexNames} {es : List Exchange}

/-- What is done about the rooms index is asked for by a restore. -/
private theorem FillingRooms.request {r : Except CallError (Option Nat)}
    (h : FillingRooms batchSize names es r) :
    ∀ call ∈ engineCalls es, Request names es call := by
  intro call hcall
  obtain rfl | rfl | ⟨rows, batch, hrows, hbatch, rfl⟩ := Filling.request h call hcall
  · exact .lookUp _
  · exact .createRooms
  · exact .writeRooms hrows hbatch

/-- What is done about the messages index is asked for by a restore. -/
private theorem FillingMessages.request {r : Except CallError (Option Nat)}
    (h : FillingMessages batchSize names es r) :
    ∀ call ∈ engineCalls es, Request names es call := by
  intro call hcall
  obtain rfl | rfl | ⟨rows, batch, hrows, hbatch, rfl⟩ := Filling.request h call hcall
  · exact .lookUp _
  · exact .createMessages
  · exact .writeMessages hrows hbatch

/-- A restore makes no other requests. -/
theorem Restoring.request {r : Except CallError BootstrapReport}
    (h : Restoring batchSize names es r) : ∀ call ∈ engineCalls es, Request names es call := by
  cases h with
  | roomsFailed rooms => exact FillingRooms.request rooms
  | messagesFailed rooms messages | finished rooms messages =>
    -- The two indices are filled one after the other, each from its own snapshot.
    rw [engineCalls_append, List.forall_mem_append]
    constructor
    · intro call hcall
      exact (FillingRooms.request rooms call hcall).mono fun _ => List.mem_append_left _
    · intro call hcall
      exact (FillingMessages.request messages call hcall).mono fun _ => List.mem_append_right _

/-- A request of a restore keeps a property of all documents if the rows of the snapshots have it,
and whatever an index holds as soon as it is created. -/
theorem Request.keeps {P : String → String → Document → Prop} {seed : Indices} {call : EngineCall}
    (h : Request names es call) (hseed : seed.All P)
    (hrooms : ∀ rooms, (⟨.read .clearRoomNames, .ok rooms⟩ : Exchange) ∈ es →
      ∀ b ∈ List.map roomEntry rooms, P names.rooms b.id b.fields)
    (hmessages : ∀ messages, (⟨.read .clearRoomMessages, .ok messages⟩ : Exchange) ∈ es →
      ∀ b ∈ List.map messageEntry messages, P names.messages b.id b.fields) :
    call.Keeps P seed := by
  cases h with
  | lookUp index => exact trivial
  -- An index that is created holds what was prepared for it.
  | createRooms | createMessages => exact fun ds hds id d hd => hseed _ ds id d hds hd
  | writeRooms hrows hbatch =>
    intro e he b hb
    cases List.mem_singleton.1 he
    exact hrooms _ hrows b (hbatch b hb)
  | writeMessages hrows hbatch =>
    intro e he b hb
    cases List.mem_singleton.1 he
    exact hmessages _ hrows b (hbatch b hb)

end Bootstrap

end ChatIndex
