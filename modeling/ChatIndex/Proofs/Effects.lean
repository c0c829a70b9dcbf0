import ChatIndex.Proofs.Faultless

/-!
# What an event does to each document

Without faults, and with answers of the read model that stay the same, an event acts on every
document by itself: what it leaves of a document depends on that document only.  A room's document
is kept, replaced, or written where there is none; a message's document is kept, replaced, removed
if it fulfils a query, or has one of two fields set if it does.

* `document?_apply_rooms`, `document?_apply_messages`      what a change does to one document
* `document?_deliver_rooms`, `document?_deliver_messages`  what an event does to one document
-/

namespace ChatIndex

/-! ## Effects on the document of a room -/

/-- What is done to the document of a room. -/
inductive RoomEffect where
  | keep
  | put (d : Option Document)
  /-- Written from the read model if there is none. -/
  | fill

/-- The document after an effect; `known` is what the read model fills a gap with. -/
def RoomEffect.act (known : Option Document) : RoomEffect → Option Document → Option Document
  | .keep, d => d
  | .put d, _ => d
  | .fill, d => d.or known

/-! ## Effects on the document of a message -/

/-- The fields that are set in the document of a message that stays. -/
def changingFields : List String :=
  ["content", "display_name"]

/-- Whether a query asks for none of the fields that are set later. -/
def DocumentQuery.Fixed (query : DocumentQuery) : Prop :=
  ∀ condition ∈ query.conditions, condition.1 ∉ changingFields

/-- Sets a field if a document fulfils a query. -/
def DocumentQuery.set (query : DocumentQuery) (field : String) (value : Json) (d : Document) :
    Document :=
  if query.isMatch d then d.insert field value else d

/-- What is done to the document of a message. -/
inductive MessageEffect where
  | keep
  | put (d : Option Document)
  | removeIf (query : DocumentQuery) (fixed : query.Fixed)
  | setIf (query : DocumentQuery) (fixed : query.Fixed) (field : String)
      (changing : field ∈ changingFields) (value : Json)

/-- The document after an effect. -/
def MessageEffect.act : MessageEffect → Option Document → Option Document
  | .keep, d => d
  | .put d, _ => d
  | .removeIf query _, d => d.filter fun d => !query.isMatch d
  | .setIf query _ field _ value, d => d.map (query.set field value)

/-- A query for one field asks for none that is set later, unless that field is. -/
theorem DocumentQuery.fixed_field {name value : String} (h : name ∉ changingFields) :
    (DocumentQuery.field name value).Fixed :=
  List.forall_mem_singleton.2 h

/-- A field that a query does not ask for may be set, and the same documents fulfil it. -/
theorem DocumentQuery.Fixed.isMatch_set {query : DocumentQuery} (h : query.Fixed) {field : String}
    (hfield : field ∈ changingFields) (other : DocumentQuery) (value : Json) (d : Document) :
    query.isMatch (other.set field value d) = query.isMatch d := by
  unfold DocumentQuery.set
  split
  · unfold DocumentQuery.isMatch
    rw [Bool.eq_iff_iff, List.all_eq_true, List.all_eq_true]
    refine forall₂_congr fun condition hcondition => ?_
    -- Each condition looks at another field than the one that is set.
    have hne : condition.1 ≠ field := fun heq => h condition hcondition (heq ▸ hfield)
    dsimp only
    rw [KeyMap.get?_insert, if_neg hne]
  · rfl

/-- A document of one room does not fulfil a query that asks for another one. -/
theorem DocumentQuery.isMatch_eq_false_of_room {query : DocumentQuery} {roomId roomId' : String}
    {d : Document} (hquery : ("room_id", roomId') ∈ query.conditions)
    (hd : d.get? "room_id" = some (.string roomId)) (hne : roomId' ≠ roomId) :
    query.isMatch d = false := by
  rw [Bool.eq_false_iff]
  intro hmatch
  have hroom := of_decide_eq_true (List.all_eq_true.1 hmatch _ hquery)
  rw [hd] at hroom
  cases hroom
  exact hne rfl

/-- The documents of a member are told by fields that are never set later. -/
theorem Sync.fixed_displayNameQuery (s : SyncSettings) (roomId userId : String) :
    (displayNameQuery s roomId userId).Fixed := by
  have hsender : "sender" ∉ changingFields := by decide
  have hroom : "room_id" ∉ changingFields := by decide
  unfold displayNameQuery
  split
  · exact DocumentQuery.fixed_field hsender
  · exact List.forall_mem_cons.2 ⟨hsender, List.forall_mem_singleton.2 hroom⟩

/-! ## The effects of a change -/

/-- Whether the read model reports a room as clear. -/
def Answers.isClear (reads : Answers) (roomId : String) : Bool :=
  match reads (.roomDetail roomId) with
  | .ok room => room.isClear
  | .error _ => false

/-- The document of a room as the read model knows it: none where the room has no name. -/
def Answers.roomDocument? (reads : Answers) (roomId : String) : Option Document :=
  match reads (.roomDetail roomId) with
  | .ok room => (room.name.filter isName).map fun name => RoomDocument.toDocument ⟨roomId, name⟩
  | .error _ => none

/-- The document that a message is written as, as long as the read model lets it be written. -/
def Answers.message? (reads : Answers) (roomId eventId sender body : String) :
    Option MessageDocument :=
  match reads (.displayName roomId sender), reads (.isRedacted eventId) with
  | .ok displayName, .ok false =>
    if reads.isClear roomId then some ⟨eventId, roomId, body, sender, displayName⟩ else none
  | _, _ => none

/-- What a change does to the document of a room; `refused` are the ids that the engine rejects. -/
def Change.roomEffect (reads : Answers) (refused : List String) (id : String) :
    Change → RoomEffect
  | .roomNameChanged roomId name =>
    if id = roomId ∧ reads.isClear roomId then
      match name with
      | none => .put none
      | some name =>
        if refused.contains roomId then .keep
        else .put (some (RoomDocument.toDocument ⟨roomId, name⟩))
    else .keep
  | .roomEncrypted roomId _ => if id = roomId then .put none else .keep
  | .messageSent roomId eventId sender body =>
    if id = roomId ∧ (reads.message? roomId eventId sender body).isSome ∧
        refused.contains roomId = false then .fill
    else .keep
  | .messageEdited .. | .messageRedacted .. | .displayNameChanged .. => .keep

/-- What a change does to the document of a message. -/
def Change.messageEffect (s : SyncSettings) (reads : Answers) (refused : List String)
    (id : String) : Change → MessageEffect
  | .roomNameChanged .. => .keep
  | .roomEncrypted roomId _ =>
    .removeIf (.field "room_id" roomId) (DocumentQuery.fixed_field (by decide))
  | .messageSent roomId eventId sender body =>
    match reads.message? roomId eventId sender body with
    | none => .keep
    | some message =>
      if id = eventId ∧ refused.contains eventId = false then .put (some message.toDocument)
      else .keep
  | .messageEdited _ target body =>
    if id = target then
      .setIf ⟨[]⟩ (List.forall_mem_nil _) "content" (by decide) (.string body)
    else .keep
  | .messageRedacted _ target => if id = target then .put none else .keep
  | .displayNameChanged roomId userId displayName =>
    .setIf (Sync.displayNameQuery s roomId userId) (Sync.fixed_displayNameQuery s roomId userId)
      "display_name" (by decide) (.string displayName)

/-! ## One lemma per kind of change -/

namespace Sync

open Attempt

variable {s : SyncSettings} {reads : Answers} {m : Memory}

/-- What the read model reports of a room says whether it is clear. -/
theorem isClear_of_ok {roomId : String} {room : RoomDetail}
    (h : reads (.roomDetail roomId) = .ok room) : reads.isClear roomId = room.isClear := by
  rw [Answers.isClear, h]

/-- A room counts as clear only if the read model answers, and says so. -/
theorem isClear_eq_true_iff {roomId : String} :
    reads.isClear roomId = true ↔
      ∃ room, reads (.roomDetail roomId) = .ok room ∧ RoomDetail.isClear room = true := by
  unfold Answers.isClear
  cases reads (.roomDetail roomId) <;> simp

/-- The document of a room that the read model knows. -/
theorem roomDocument?_of_ok {roomId : String} {room : RoomDetail}
    (h : reads (.roomDetail roomId) = .ok room) :
    reads.roomDocument? roomId =
      (room.name.filter isName).map fun name => RoomDocument.toDocument ⟨roomId, name⟩ := by
  rw [Answers.roomDocument?, h]

/-- A rename makes its one request in a clear room only. -/
theorem against_roomNameChanged (roomId : String) (name : Option String) :
    (against reads (apply s (.roomNameChanged roomId name)) m).2 =
      if reads.isClear roomId then (m.answer (renameCall s roomId name)).2 else m := by
  rw [apply, onRoomNameChanged]
  cases hroom : reads (.roomDetail roomId) with
  | error e =>
    rw [against_bind, against_read, hroom, Answers.isClear, hroom]
    rfl
  | ok room =>
    rw [against_read_bind hroom, isClear_of_ok hroom]
    cases hclear : RoomDetail.isClear room with
    | false => rfl
    | true =>
      rw [if_neg (by decide), if_pos rfl]
      cases name <;> exact against_engine_last m

/-- The encryption of a room makes both its requests. -/
theorem against_roomEncrypted (roomId algorithm : String) :
    (against reads (apply s (.roomEncrypted roomId algorithm)) m).2 =
      ((m.deleteDocument s.indices.rooms roomId).deleteDocuments s.indices.messages
        (.field "room_id" roomId)).2 := by
  have hroom : m.answer (.deleteDocument s.indices.rooms roomId) =
      (.ok (), m.deleteDocument s.indices.rooms roomId) := rfl
  let m₁ := m.deleteDocument s.indices.rooms roomId
  let query : DocumentQuery := .field "room_id" roomId
  have hmessages : m₁.answer (.deleteDocuments s.indices.messages query) =
      (.ok (m₁.deleteDocuments s.indices.messages query).1,
        (m₁.deleteDocuments s.indices.messages query).2) := rfl
  rw [apply, onRoomEncrypted, against_engine_bind hroom, against_engine_bind hmessages]
  -- What follows the two requests only logs.
  simp only [against_bind, against_record]
  split <;> rfl

/-- What follows the request for a display name only logs. -/
theorem against_displayNameChanged (roomId userId displayName : String) :
    (against reads (apply s (.displayNameChanged roomId userId displayName)) m).2 =
      (m.updateDocuments s.indices.messages "display_name" (.string displayName)
        (displayNameQuery s roomId userId)).2 := by
  let query := displayNameQuery s roomId userId
  have hanswer : m.answer
      (.updateDocuments s.indices.messages "display_name" (.string displayName) query) =
        (.ok (m.updateDocuments s.indices.messages "display_name" (.string displayName) query).1,
          (m.updateDocuments s.indices.messages "display_name" (.string displayName) query).2) :=
    rfl
  rw [apply, onDisplayNameChanged, against_engine_bind hanswer]
  split <;> rfl

/-- An edit changes the content of the document it names, if there is one. -/
theorem document?_edited (roomId target body id : String) :
    (against reads (apply s (.messageEdited roomId target body)) m).2.document?
        s.indices.messages id =
      if id = target then
        (m.document? s.indices.messages id).map (·.insert "content" (.string body))
      else m.document? s.indices.messages id := by
  -- The one request merges the new text into the document.
  rw [apply, onMessageEdited, against_engine_last, Memory.answer, Memory.document?_updateDocument]
  by_cases hid : id = target
  · rw [if_pos ⟨rfl, hid⟩, if_pos hid, hid]
    rfl
  · rw [if_neg (fun h => hid h.2), if_neg hid]

/-- A redaction removes the document it names. -/
theorem document?_redacted (roomId target id : String) :
    (against reads (apply s (.messageRedacted roomId target)) m).2.document?
        s.indices.messages id =
      if id = target then none else m.document? s.indices.messages id := by
  rw [apply, onMessageRedacted, against_engine_last, Memory.answer, Memory.document?_deleteDocument]
  by_cases hid : id = target
  · rw [if_pos ⟨rfl, hid⟩, if_pos hid]
  · rw [if_neg (fun h => hid h.2), if_neg hid]

/-- A message that may be written is written together with what is known of its room. -/
theorem against_messageSent (roomId eventId sender body : String) :
    (against reads (apply s (.messageSent roomId eventId sender body)) m).2 =
      match reads.message? roomId eventId sender body, reads (.roomDetail roomId) with
      | some message, .ok room =>
        (m.indexDocuments (messageBatch s message room
          (m.document? s.indices.rooms roomId).isSome)).2
      | _, _ => m := by
  have hindexed : m.answer (.documentExists s.indices.rooms roomId) =
      (.ok (m.document? s.indices.rooms roomId).isSome, m) := rfl
  rw [apply, onMessageSent, Answers.message?]
  cases hname : reads (.displayName roomId sender) with
  | error e =>
    rw [against_bind, against_read, hname]
    rfl
  | ok displayName =>
    rw [against_read_bind hname, against_engine_bind hindexed]
    -- The order of the questions: the name, the room document, the redaction, the room.
    cases hredacted : reads (.isRedacted eventId) with
    | error e =>
      rw [against_bind, against_read, hredacted]
      rfl
    | ok redacted =>
      rw [against_read_bind hredacted]
      cases redacted with
      | true => rfl
      | false =>
        rw [if_neg (by decide)]
        cases hroom : reads (.roomDetail roomId) with
        | error e =>
          rw [against_bind, against_read, hroom, Answers.isClear, hroom]
          rfl
        -- What follows the question is one request, and only in a clear room.
        | ok room =>
          rw [against_read_bind hroom, isClear_of_ok hroom]
          cases hclear : RoomDetail.isClear room with
          | false => rfl
          | true =>
            rw [if_neg (by decide), against_engine_last]
            rfl

/-- What the read model must say for a message to be written. -/
theorem message?_eq_some_iff {roomId eventId sender body : String} {message : MessageDocument} :
    reads.message? roomId eventId sender body = some message ↔
      ∃ displayName room, reads (.displayName roomId sender) = .ok displayName ∧
        reads (.isRedacted eventId) = .ok false ∧ reads (.roomDetail roomId) = .ok room ∧
        RoomDetail.isClear room = true ∧
        message = ⟨eventId, roomId, body, sender, displayName⟩ := by
  unfold Answers.message?
  constructor
  · intro h
    split at h
    · next displayName hname hredacted =>
      -- The read model gave both answers; what is left is whether the room is clear.
      obtain ⟨hclear, h⟩ := Option.ite_none_right_eq_some.1 h
      obtain ⟨room, hroom, hclear⟩ := isClear_eq_true_iff.1 hclear
      exact ⟨displayName, room, hname, hredacted, hroom, hclear, (Option.some.inj h).symm⟩
    · exact nomatch h
  · rintro ⟨displayName, room, hname, hredacted, hroom, hclear, rfl⟩
    rw [hname, hredacted]
    exact if_pos (isClear_eq_true_iff.2 ⟨room, hroom, hclear⟩)

/-- The batch for a message has one entry for the messages index. -/
theorem get?_messageBatch_messages (hnames : s.indices.rooms ≠ s.indices.messages)
    (message : MessageDocument) (room : RoomDetail) (indexed : Bool) :
    (messageBatch s message room indexed).get? s.indices.messages = some [message.entry] := by
  unfold messageBatch
  dsimp only
  split
  · -- The room has a name; its entry goes to the other index, if it is added at all.
    split
    · rw [KeyMap.get?_insert, if_pos rfl]
    · rw [KeyMap.get?_insert, if_neg (Ne.symm hnames), KeyMap.get?_insert, if_pos rfl]
  · rw [KeyMap.get?_insert, if_pos rfl]

/-- The batch for a message has an entry for the rooms index if the room has a name and no
document. -/
theorem get?_messageBatch_rooms (hnames : s.indices.rooms ≠ s.indices.messages)
    (message : MessageDocument) (room : RoomDetail) (indexed : Bool) :
    ((messageBatch s message room indexed).get? s.indices.rooms).getD [] =
      if indexed then [] else
        ((room.name.filter isName).map fun name =>
          RoomDocument.entry ⟨message.roomId, name⟩).toList := by
  unfold messageBatch
  dsimp only
  split
  · -- A named room has an entry unless it is indexed already.
    next name hname =>
    rw [hname]
    split
    · rw [KeyMap.get?_insert, if_neg hnames, KeyMap.get?_empty]
      rfl
    · rw [KeyMap.get?_insert, if_pos rfl]
      rfl
  · -- A room without a name has none.
    next hname =>
    rw [KeyMap.get?_insert, if_neg hnames, KeyMap.get?_empty, hname]
    split <;> rfl

/-- One document written to an index, unless its id is one that the engine rejects. -/
theorem get?_writeAll_index (refused : List String) (i : String) (ds : Index) (id : String)
    (fields : Document) (k : String) :
    (Memory.writeAll refused i ds [⟨id, .index, fields⟩]).1.get? k =
      if k = id ∧ refused.contains id = false then some fields else ds.get? k := by
  simp only [Memory.writeAll, Memory.writeOne]
  cases refused.contains id with
  | true => rw [if_pos rfl, if_neg (fun h => nomatch h.2)]
  | false =>
    -- An index action overwrites, so it does not matter what is there.
    rw [if_neg (by decide), if_neg (fun h => nomatch h.1), KeyMap.get?_insert]
    simp only [and_true]

/-- A bulk request that writes one document to an index. -/
theorem document?_indexDocuments_of_get?_eq_some {batch : BulkBatch} {i id : String}
    {fields : Document} (h : batch.get? i = some [⟨id, .index, fields⟩]) (k : String) :
    (m.indexDocuments batch).2.document? i k =
      if k = id ∧ m.refused.contains id = false then some fields else m.document? i k := by
  rw [Memory.document?, Memory.documents_indexDocuments, h, Option.getD_some]
  exact get?_writeAll_index m.refused i (m.documents i) id fields k

/-- The batch for a message fills the gap in the rooms index, if there is one. -/
theorem document?_messageBatch_rooms (hnames : s.indices.rooms ≠ s.indices.messages)
    (message : MessageDocument) (room : RoomDetail) (id : String) :
    (m.indexDocuments (messageBatch s message room
        (m.document? s.indices.rooms message.roomId).isSome)).2.document? s.indices.rooms id =
      if id = message.roomId ∧ m.refused.contains message.roomId = false then
        (m.document? s.indices.rooms id).or
          ((room.name.filter isName).map fun name => RoomDocument.toDocument ⟨message.roomId, name⟩)
      else m.document? s.indices.rooms id := by
  rw [Memory.document?, Memory.documents_indexDocuments, get?_messageBatch_rooms hnames]
  cases hdocument : m.document? s.indices.rooms message.roomId with
  | some d =>
    -- Nothing is sent for a room that has a document.
    rw [Option.isSome_some, if_pos rfl, Memory.writeAll]
    split
    · next hid => rw [hid.1, hdocument]; exact hdocument
    · rfl
  | none =>
    rw [Option.isSome_none, if_neg (by decide)]
    cases room.name.filter isName with
    | none =>
      rw [Option.map_none, Option.map_none, Option.or_none, ite_self]
      rfl
    | some name =>
      refine (get?_writeAll_index _ _ _ message.roomId _ id).trans ?_
      by_cases hid : id = message.roomId ∧ m.refused.contains message.roomId = false
      · rw [if_pos hid, if_pos hid, hid.1, hdocument]
        rfl
      · rw [if_neg hid, if_neg hid]
        rfl

/-! ## All changes -/

/-- What a change leaves of the document of a room. -/
theorem document?_apply_rooms (hnames : s.indices.rooms ≠ s.indices.messages) (c : Change)
    (id : String) :
    (against reads (apply s c) m).2.document? s.indices.rooms id =
      (c.roomEffect reads m.refused id).act (reads.roomDocument? id)
        (m.document? s.indices.rooms id) := by
  cases c with
  | roomNameChanged roomId name =>
    rw [against_roomNameChanged]
    by_cases hclear : reads.isClear roomId = true
    · rw [if_pos hclear]
      cases name with
      | none =>
        rw [renameCall, Memory.answer, Memory.document?_deleteDocument]
        by_cases hid : id = roomId <;> simp [Change.roomEffect, hid, hclear, RoomEffect.act]
      | some name =>
        -- The engine rejects the document of some ids, whatever it holds.
        have hentry : (KeyMap.empty.insert s.indices.rooms
            [RoomDocument.entry ⟨roomId, name⟩]).get? s.indices.rooms =
              some [⟨roomId, .index, RoomDocument.toDocument ⟨roomId, name⟩⟩] := by
          rw [KeyMap.get?_insert, if_pos rfl]
          rfl
        rw [renameCall, Memory.answer, document?_indexDocuments_of_get?_eq_some hentry]
        by_cases hid : id = roomId
        · -- The room's own document; any other one is kept.
          by_cases hrefused : roomId ∈ m.refused <;>
            simp [Change.roomEffect, hid, hclear, hrefused, RoomEffect.act]
        · simp [Change.roomEffect, hid, RoomEffect.act]
    · simp [Change.roomEffect, hclear, RoomEffect.act]
  | roomEncrypted roomId algorithm =>
    rw [against_roomEncrypted, Memory.document?_deleteDocuments, if_neg hnames,
      Memory.document?_deleteDocument, Change.roomEffect]
    by_cases hid : id = roomId <;> simp [hid, RoomEffect.act]
  | messageSent roomId eventId sender body =>
    rw [against_messageSent, Change.roomEffect]
    cases hmessage : reads.message? roomId eventId sender body with
    | none => simp [RoomEffect.act]
    | some message =>
      -- The message is written, and its batch fills the gap in the rooms index.
      obtain ⟨displayName, room, -, -, hroom, -, rfl⟩ := message?_eq_some_iff.1 hmessage
      rw [hroom]
      dsimp only
      rw [document?_messageBatch_rooms hnames]
      by_cases hid : id = roomId
      · rw [hid, roomDocument?_of_ok hroom]
        by_cases hrefused : roomId ∈ m.refused <;> simp [hrefused, RoomEffect.act]
      · simp [hid, RoomEffect.act]
  | messageEdited roomId target body =>
    -- The last three go to the messages index only.
    rw [apply, onMessageEdited, against_engine_last, Memory.answer, Memory.document?_updateDocument,
      if_neg (fun h => hnames h.1)]
    rfl
  | messageRedacted roomId target =>
    rw [apply, onMessageRedacted, against_engine_last, Memory.answer,
      Memory.document?_deleteDocument, if_neg (fun h => hnames h.1)]
    rfl
  | displayNameChanged roomId userId displayName =>
    rw [against_displayNameChanged, Memory.document?_updateDocuments, if_neg hnames]
    rfl

/-- What a change leaves of the document of a message. -/
theorem document?_apply_messages (hnames : s.indices.rooms ≠ s.indices.messages) (c : Change)
    (id : String) :
    (against reads (apply s c) m).2.document? s.indices.messages id =
      (c.messageEffect s reads m.refused id).act (m.document? s.indices.messages id) := by
  cases c with
  | roomNameChanged roomId name =>
    -- A rename touches the rooms index only.
    rw [against_roomNameChanged]
    split
    · cases name with
      | none =>
        rw [renameCall, Memory.answer, Memory.document?_deleteDocument,
          if_neg (fun h => hnames h.1.symm)]
        rfl
      | some name =>
        rw [renameCall, Memory.answer, Memory.document?, Memory.documents_indexDocuments,
          KeyMap.get?_insert, if_neg (Ne.symm hnames)]
        rfl
    · rfl
  | roomEncrypted roomId algorithm =>
    rw [against_roomEncrypted, Memory.document?_deleteDocuments, if_pos rfl,
      Memory.document?_deleteDocument, if_neg (fun h => hnames h.1.symm)]
    rfl
  | messageSent roomId eventId sender body =>
    rw [against_messageSent, Change.messageEffect]
    cases hmessage : reads.message? roomId eventId sender body with
    | none => rfl
    | some message =>
      obtain ⟨displayName, room, -, -, hroom, -, rfl⟩ := message?_eq_some_iff.1 hmessage
      rw [hroom]
      dsimp only
      -- Whether the engine takes the id decides what is there afterwards.
      rw [document?_indexDocuments_of_get?_eq_some (get?_messageBatch_messages hnames _ _ _)]
      by_cases hid : id = eventId ∧ m.refused.contains eventId = false
      · rw [if_pos hid, if_pos hid]
        rfl
      · rw [if_neg hid, if_neg hid]
        rfl
  | messageEdited roomId target body =>
    rw [document?_edited, Change.messageEffect]
    split <;> rfl
  | messageRedacted roomId target =>
    rw [document?_redacted, Change.messageEffect]
    split <;> rfl
  | displayNameChanged roomId userId displayName =>
    rw [against_displayNameChanged, Memory.document?_updateDocuments, if_pos rfl]
    rfl

/-- A message of a clear room is written unless it is on record as redacted. -/
theorem document?_sent {roomId eventId sender body : String} {displayName : Option String}
    {redacted : Bool} {room : RoomDetail} (hnames : s.indices.rooms ≠ s.indices.messages)
    (hrefused : m.refused = []) (hname : reads (.displayName roomId sender) = .ok displayName)
    (hredacted : reads (.isRedacted eventId) = .ok redacted)
    (hroom : reads (.roomDetail roomId) = .ok room) (hclear : room.isClear = true) (id : String) :
    (against reads (apply s (.messageSent roomId eventId sender body)) m).2.document?
        s.indices.messages id =
      if redacted = false ∧ id = eventId then
        some (MessageDocument.toDocument ⟨eventId, roomId, body, sender, displayName⟩)
      else m.document? s.indices.messages id := by
  -- A redaction on record is all that keeps the message out.
  have hmessage : reads.message? roomId eventId sender body =
      if redacted then none else some ⟨eventId, roomId, body, sender, displayName⟩ := by
    rw [Answers.message?, hname, hredacted]
    cases redacted with
    | true => rfl
    | false => exact if_pos ((isClear_of_ok hroom).trans hclear)
  rw [document?_apply_messages hnames, Change.messageEffect, hmessage, hrefused]
  cases redacted with
  | true => rfl
  | false => by_cases hid : id = eventId <;> simp [hid, MessageEffect.act]

end Sync

/-! ## Events -/

/-- What an event does to the document of a room. -/
def RoomEvent.roomEffect (reads : Answers) (refused : List String) (id : String)
    (event : RoomEvent) : RoomEffect :=
  match event.change? with
  | .ok (some c) => c.roomEffect reads refused id
  | _ => .keep

/-- What an event does to the document of a message. -/
def RoomEvent.messageEffect (s : SyncSettings) (reads : Answers) (refused : List String)
    (id : String) (event : RoomEvent) : MessageEffect :=
  match event.change? with
  | .ok (some c) => c.messageEffect s reads refused id
  | _ => .keep

section Events

variable {s : SyncSettings} {d : Delivery} {m : Memory}

/-- What an event leaves of the document of a room. -/
theorem document?_deliver_rooms (hnames : s.indices.rooms ≠ s.indices.messages) (id : String) :
    (deliver s m d).document? s.indices.rooms id =
      (d.event.roomEffect d.reads m.refused id).act (d.reads.roomDocument? id)
        (m.document? s.indices.rooms id) := by
  unfold RoomEvent.roomEffect
  split
  · next c hchange => rw [deliver_of_change hchange, Sync.document?_apply_rooms hnames]
  · next hchange => rw [deliver_of_no_change hchange]; rfl

/-- What an event leaves of the document of a message. -/
theorem document?_deliver_messages (hnames : s.indices.rooms ≠ s.indices.messages) (id : String) :
    (deliver s m d).document? s.indices.messages id =
      (d.event.messageEffect s d.reads m.refused id).act (m.document? s.indices.messages id) := by
  unfold RoomEvent.messageEffect
  split
  · next c hchange => rw [deliver_of_change hchange, Sync.document?_apply_messages hnames]
  · next hchange => rw [deliver_of_no_change hchange]; rfl

end Events

/-! ## Many events -/

/-- What events, handled one after the other, leave of the engine if the read model answers the
same all along. -/
def deliverAll (s : SyncSettings) (reads : Answers) (m : Memory) (events : List RoomEvent) :
    Memory :=
  events.foldl (fun m event => deliver s m ⟨event, reads⟩) m

section ManyEvents

variable {s : SyncSettings} {reads : Answers}

/-- Events act one after the other on the document of a room. -/
theorem document?_deliverAll_rooms (hnames : s.indices.rooms ≠ s.indices.messages)
    (events : List RoomEvent) (m : Memory) (id : String) :
    (deliverAll s reads m events).document? s.indices.rooms id =
      events.foldl (fun d event =>
        (event.roomEffect reads m.refused id).act (reads.roomDocument? id) d)
        (m.document? s.indices.rooms id) := by
  induction events generalizing m with
  | nil => rfl
  | cons event events ih =>
    -- The ids that the engine rejects are the same after the first event.
    have hrest := ih (deliver s m ⟨event, reads⟩)
    rw [refused_deliver, document?_deliver_rooms hnames] at hrest
    exact hrest

/-- Events act one after the other on the document of a message. -/
theorem document?_deliverAll_messages (hnames : s.indices.rooms ≠ s.indices.messages)
    (events : List RoomEvent) (m : Memory) (id : String) :
    (deliverAll s reads m events).document? s.indices.messages id =
      events.foldl (fun d event => (event.messageEffect s reads m.refused id).act d)
        (m.document? s.indices.messages id) := by
  induction events generalizing m with
  | nil => rfl
  | cons event events ih =>
    have hrest := ih (deliver s m ⟨event, reads⟩)
    rw [refused_deliver, document?_deliver_messages hnames] at hrest
    exact hrest

end ManyEvents

end ChatIndex
