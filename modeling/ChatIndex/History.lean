import ChatIndex.Change
import ChatIndex.KeyMap
import ChatIndex.ReadModel

/-! # The current messages of a history

A history is a list of changes, oldest first.  An edit changes the content of the message it
names, if that came before it, and is no message of its own.  The messages are kept in the order
in which they were sent, beside a table of the position of the last message of each id.
-/

namespace ChatIndex

/-- The messages of the part of a history that was read, and the position of each id. -/
structure History where
  messages : List RoomMessage
  positions : KeyMap Nat

namespace History

/-- Nothing read. -/
def empty : History :=
  ⟨[], .empty⟩

/-- The display name of a member in a room, out of the latest names. -/
def displayName (names : List MemberName) (roomId userId : String) : Option String :=
  (names.reverse.find? fun m =>
    m.roomId = roomId ∧ m.userId = userId ∧ m.displayName.isSome).bind (·.displayName)

/-- Reads one more change. -/
def step (names : List MemberName) (h : History) : Change → History
  | .messageSent roomId eventId sender body =>
    let message : RoomMessage := ⟨eventId, roomId, body, sender, displayName names roomId sender⟩
    ⟨h.messages ++ [message], h.positions.insert eventId h.messages.length⟩
  | .messageEdited _ targetEventId body =>
    match h.positions.get? targetEventId with
    | some position =>
      { h with messages := h.messages.modify position fun m => { m with content := body } }
    | none => h
  | _ => h

/-- The current messages of a history. -/
def currentMessages (changes : List Change) (names : List MemberName) : List RoomMessage :=
  (changes.foldl (step names) empty).messages

end History

/-! ## Stored messages -/

/-- A message event as it is stored: its ids, and the rest as text. -/
structure StoredMessage where
  eventId : String
  roomId : String
  json : String
deriving DecidableEq, Repr, Inhabited

namespace StoredMessage

/-- The fields of the stored text that are read. -/
def fields : Json.FieldList :=
  [("sender", .required, .any), ("content", .defaulted, .any)]

/-- The event that a stored message stands for; `none` if its text cannot be read. -/
def event? (m : StoredMessage) : Option RoomEvent := do
  let value ← Json.readAs? (.record fields) (Json.bytesOf m.json)
  let members ← value.record? fields
  let sender ← Json.field? members "sender"
  pure {
    type := "m.room.message"
    roomId := m.roomId
    sender
    content := (Entries.get? members "content").getD .null
    eventId := some m.eventId
    stateKey := none
    redacts := none
    unsigned := none }

/-- The change that a stored message stands for; `none` for one that is malformed or asks for
nothing. -/
def change? (m : StoredMessage) : Option Change :=
  match m.event?.map RoomEvent.change? with
  | some (.ok c) => c
  | _ => none

end StoredMessage

end ChatIndex
