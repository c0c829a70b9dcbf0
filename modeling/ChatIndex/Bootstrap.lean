import ChatIndex.Config
import ChatIndex.Document
import ChatIndex.Program
import ChatIndex.Text.Quoted

/-! # Creating and filling the indices

Each of the two indices that the service owns is created where it is missing and then filled from
the read model; an index that exists is left alone, so that a second run does nothing.  Documents
are written with the action `create`: an id that is already there is rejected instead of being
overwritten, and the documents beside it are still written.
-/

namespace ChatIndex

/-- What a run did. -/
structure BootstrapReport where
  createdIndices : List String
  roomsBackfilled : Nat
  messagesBackfilled : Nat
deriving DecidableEq, Repr, Inhabited

namespace Bootstrap

open Attempt

/-! ## Mappings -/

/-- A mapping that gives each field its type. -/
def mapping (types : List (String × String)) : Json :=
  let properties := types.map fun (field, type) => (field, Json.ofMembers [("type", .string type)])
  .ofMembers [("mappings", .ofMembers [("properties", .ofMembers properties)])]

/-- The mapping of the rooms index. -/
def roomsMapping : Json :=
  mapping [("id", "keyword"), ("name", "text")]

/-- The mapping of the messages index. -/
def messagesMapping : Json :=
  mapping
    [("id", "keyword"), ("room_id", "keyword"), ("sender", "keyword"), ("content", "text"),
     ("display_name", "text")]

/-! ## Filling an index -/

/-- The bulk entry that writes a room of the snapshot. -/
def roomEntry (room : RoomName) : BulkDocument :=
  let document : RoomDocument := ⟨room.roomId, room.name⟩
  ⟨document.id, .create, document.toDocument⟩

/-- The bulk entry that writes a message of the snapshot. -/
def messageEntry (m : RoomMessage) : BulkDocument :=
  let document : MessageDocument := ⟨m.eventId, m.roomId, m.content, m.sender, m.displayName⟩
  ⟨document.id, .create, document.toDocument⟩

/-- Cuts a list into pieces of `size`, the last one perhaps shorter; `size` is at least one. -/
def chunks {α : Type} (size : Nat) (xs : List α) : List (List α) :=
  match xs with
  | [] => []
  | x :: rest => (x :: rest.take (size - 1)) :: chunks size (rest.drop (size - 1))
termination_by xs.length
decreasing_by rw [List.length_drop, List.length_cons]; omega

/-- Sends the batches one after the other and gathers what they reject.  A batch that fails in
any other way ends the backfill. -/
def sendAll (index : String) : List (List BulkDocument) → Attempt CallError (List Rejection)
  | [] => return []
  | batch :: batches => do
    let answer ← tryEngine (.indexDocuments (KeyMap.empty.insert index batch))
    match answer with
    | .ok () => sendAll index batches
    -- The accepted documents of this batch are written, so the next batch is sent all the same.
    | .error (.bulkFailure rejections) =>
      record .warn "Backfill batch had rejected documents"
        [("index", index), ("rejected", rejections.length.repr)]
      let more ← sendAll index batches
      return rejections ++ more
    | .error e => throw (.engine e)

/-- Writes documents to an index in batches, and answers how many there are.  Rejected documents
are reported once, after the last batch. -/
def backfill (batchSize : Nat) (index : String) (documents : List BulkDocument) :
    Attempt CallError Nat := do
  -- No piece is empty, whatever size was configured.
  let rejections ← sendAll index (chunks (max batchSize 1) documents)
  if !rejections.isEmpty then
    throw (.engine (.bulkFailure rejections))
  record .info "Backfill written" [("index", index), ("documents", documents.length.repr)]
  return documents.length

/-- Creates an index unless it exists; answers whether it was created. -/
def ensureIndex (name : String) (mapping : Json) : Attempt CallError Bool := do
  let present ← engine (.indexExists name)
  if present then
    record .info "Index exists; skipping backfill" [("index", name)]
    return false
  -- Nothing is held between the two requests: an index that appears meanwhile is a failure.
  engine (.createIndex name mapping)
  record .info "Index created" [("index", name)]
  return true

/-! ## The whole run -/

/-- The names of the indices that were created, and how many documents were written. -/
def logFields (report : BootstrapReport) : List (String × String) :=
  [("created", Text.quoteList report.createdIndices), ("rooms", report.roomsBackfilled.repr),
   ("messages", report.messagesBackfilled.repr)]

/-- Creates and fills the rooms index; answers how many rooms were written, if it was created. -/
def ensureRooms (batchSize : Nat) (names : IndexNames) : Attempt CallError (Option Nat) := do
  let created ← ensureIndex names.rooms roomsMapping
  if created then
    let rooms ← read .clearRoomNames
    let written ← backfill batchSize names.rooms (rooms.map roomEntry)
    return some written
  return none

/-- Creates and fills the messages index; answers how many messages were written, if it was
created. -/
def ensureMessages (batchSize : Nat) (names : IndexNames) : Attempt CallError (Option Nat) := do
  let created ← ensureIndex names.messages messagesMapping
  if created then
    let messages ← read .clearRoomMessages
    let written ← backfill batchSize names.messages (messages.map messageEntry)
    return some written
  return none

/-- What the two steps of a run add up to. -/
def report (names : IndexNames) (rooms messages : Option Nat) : BootstrapReport :=
  { createdIndices :=
      (rooms.map fun _ => names.rooms).toList ++ (messages.map fun _ => names.messages).toList
    roomsBackfilled := rooms.getD 0
    messagesBackfilled := messages.getD 0 }

/-- Creates and fills both indices. -/
def run (batchSize : Nat) (names : IndexNames) : Attempt CallError BootstrapReport := do
  let rooms ← ensureRooms batchSize names
  let messages ← ensureMessages batchSize names
  let report := report names rooms messages
  record .info "Search index bootstrap finished" (logFields report)
  return report

end Bootstrap

end ChatIndex
