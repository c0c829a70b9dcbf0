import ChatIndex.Change
import ChatIndex.Config
import ChatIndex.Document
import ChatIndex.Program

/-! # Keeping the indices in step with room events

For each change that an event asks for there is one course of requests.  Whatever depends on the
state of a room is read from the read model right before it is needed, and encryption last of
all, so that as little as possible can change between reading and writing.

An event never fails: what goes wrong is written to the log, so that one bad event does not hold
up the ones behind it.
-/

namespace ChatIndex

/-- What the synchronisation needs to know of the configuration. -/
structure SyncSettings where
  indices : IndexNames
  displayNameScope : DisplayNameScope
deriving DecidableEq, Repr, Inhabited

/-- What became of a change. -/
inductive SyncOutcome where
  | applied
  | skippedEncryptedRoom
  | skippedRedactedMessage
deriving DecidableEq, Repr, Inhabited

/-- Whether a name counts as one: it has a character that is not white space. -/
def isName (name : String) : Bool :=
  !Text.isBlank name

/-- The bulk entry that writes a room document, over any there is. -/
def RoomDocument.entry (room : RoomDocument) : BulkDocument :=
  ⟨room.id, .index, room.toDocument⟩

/-- The bulk entry that writes a message document, over any there is. -/
def MessageDocument.entry (message : MessageDocument) : BulkDocument :=
  ⟨message.id, .index, message.toDocument⟩

namespace Sync

open Attempt

/-! ## One course of requests for each kind of change -/

/-- A room has a new name, or lost its name. -/
def onRoomNameChanged (s : SyncSettings) (roomId : String) (name : Option String) :
    Attempt CallError SyncOutcome := do
  -- The new name is in the event; the read model says only whether the room is clear.
  let room ← read (.roomDetail roomId)
  if !room.isClear then
    return .skippedEncryptedRoom
  match name with
  | some name =>
    let room : RoomDocument := ⟨roomId, name⟩
    engine (.indexDocuments (KeyMap.empty.insert s.indices.rooms [room.entry]))
  | none => engine (.deleteDocument s.indices.rooms roomId)
  return .applied

/-- A room was encrypted: its document and those of its messages are removed. -/
def onRoomEncrypted (s : SyncSettings) (roomId algorithm : String) :
    Attempt CallError SyncOutcome := do
  -- The room document first: if the second request fails, the room can no longer be found.
  engine (.deleteDocument s.indices.rooms roomId)
  let outcome ← engine (.deleteDocuments s.indices.messages (.field "room_id" roomId))
  record .info "Room encrypted; removed its documents from search indices"
    [("room_id", roomId), ("algorithm", algorithm), ("deleted", outcome.applied.repr),
     ("version_conflicts", outcome.versionConflicts.repr)]
  if 0 < outcome.failures then
    record .warn "Some message documents of an encrypted room could not be deleted"
      [("room_id", roomId), ("failures", outcome.failures.repr)]
  return .applied

/-- The bulk request for a message: its document and, where the room has a name but no document
yet, that of the room. -/
def messageBatch (s : SyncSettings) (message : MessageDocument) (room : RoomDetail)
    (roomIndexed : Bool) : BulkBatch :=
  let batch := KeyMap.empty.insert s.indices.messages [message.entry]
  match room.name.filter isName with
  | some name =>
    -- A document that is there is kept up by the renames, so it is not written again.
    if roomIndexed then batch
    else
      let room : RoomDocument := ⟨message.roomId, name⟩
      batch.insert s.indices.rooms [room.entry]
  | none => batch

/-- A message was sent.  A redaction may arrive before its message, and a message may be
delivered again after its redaction, so what is on record as redacted is not written. -/
def onMessageSent (s : SyncSettings) (roomId eventId sender body : String) :
    Attempt CallError SyncOutcome := do
  let displayName ← read (.displayName roomId sender)
  let roomIndexed ← engine (.documentExists s.indices.rooms roomId)
  -- From here on nothing but the two checks comes between reading and writing.
  let redacted ← read (.isRedacted eventId)
  if redacted then
    return .skippedRedactedMessage
  let room ← read (.roomDetail roomId)
  if !room.isClear then
    return .skippedEncryptedRoom
  let message : MessageDocument := ⟨eventId, roomId, body, sender, displayName⟩
  engine (.indexDocuments (messageBatch s message room roomIndexed))
  return .applied

/-- A message was edited: the content of its document changes. -/
def onMessageEdited (s : SyncSettings) (targetEventId body : String) :
    Attempt CallError SyncOutcome := do
  engine (.updateDocument s.indices.messages targetEventId
    (KeyMap.empty.insert "content" (.string body)))
  return .applied

/-- A message was redacted: its document is removed. -/
def onMessageRedacted (s : SyncSettings) (eventId : String) : Attempt CallError SyncOutcome := do
  engine (.deleteDocument s.indices.messages eventId)
  return .applied

/-- The documents that a new display name is written to. -/
def displayNameQuery (s : SyncSettings) (roomId userId : String) : DocumentQuery :=
  match s.displayNameScope with
  | .everywhere => .field "sender" userId
  | .room => (DocumentQuery.field "sender" userId).and "room_id" roomId

/-- A member has a new display name. -/
def onDisplayNameChanged (s : SyncSettings) (roomId userId displayName : String) :
    Attempt CallError SyncOutcome := do
  let outcome ← engine (.updateDocuments s.indices.messages "display_name" (.string displayName)
    (displayNameQuery s roomId userId))
  -- What was skipped keeps the old name, which is worth a warning.
  if 0 < outcome.versionConflicts ∨ 0 < outcome.failures then
    record .warn "Display name propagation skipped some documents"
      [("user_id", userId), ("room_id", roomId), ("updated", outcome.applied.repr),
       ("version_conflicts", outcome.versionConflicts.repr),
       ("failures", outcome.failures.repr)]
  return .applied

/-- Carries out a change. -/
def apply (s : SyncSettings) : Change → Attempt CallError SyncOutcome
  | .roomNameChanged roomId name => onRoomNameChanged s roomId name
  | .roomEncrypted roomId algorithm => onRoomEncrypted s roomId algorithm
  | .messageSent roomId eventId sender body => onMessageSent s roomId eventId sender body
  | .messageEdited _ targetEventId body => onMessageEdited s targetEventId body
  | .messageRedacted _ eventId => onMessageRedacted s eventId
  | .displayNameChanged roomId userId displayName =>
    onDisplayNameChanged s roomId userId displayName

/-! ## Events -/

/-- The record of an event that came to nothing or was carried out. -/
def outcomeRecord (event : RoomEvent) (c : Change) :
    Except CallError SyncOutcome → LogRecord
  | .ok .applied =>
    ⟨.debug, "Search indices synchronized",
      [("event_type", event.type), ("kind", c.kind), ("room_id", event.roomId),
       ("event_id", Text.quoteOption event.eventId)]⟩
  | .ok .skippedEncryptedRoom =>
    ⟨.debug, "Room is encrypted; event not indexed",
      [("event_type", event.type), ("room_id", event.roomId),
       ("event_id", Text.quoteOption event.eventId)]⟩
  | .ok .skippedRedactedMessage =>
    ⟨.debug, "Message already redacted; event not indexed",
      [("room_id", event.roomId), ("event_id", Text.quoteOption event.eventId)]⟩
  | .error e =>
    ⟨.error, "Failed to synchronize search indices: " ++ e.message,
      [("event_type", event.type), ("kind", c.kind), ("room_id", event.roomId),
       ("event_id", Text.quoteOption event.eventId),
       ("status", Text.showOption e.statusCode?)]⟩

/-- Handles an event.  Never fails. -/
def handle (s : SyncSettings) (event : RoomEvent) : Program Unit :=
  match event.change? with
  | .ok none =>
    .record .debug "Room event has no effect on search indices"
      [("event_type", event.type), ("room_id", event.roomId)]
  | .error malformed =>
    .record .warn ("Ignoring malformed room event: " ++ malformed.message)
      [("event_type", event.type), ("room_id", event.roomId),
       ("event_id", Text.quoteOption event.eventId)]
  | .ok (some c) => do
    let outcome ← (apply s c).run
    .log (outcomeRecord event c outcome) (.done ())

end Sync

end ChatIndex
