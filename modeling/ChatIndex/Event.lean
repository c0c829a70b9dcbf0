import ChatIndex.Json.Record

/-! # Room events

An event of a room's timeline or state, as the transport delivers it.  It is a record whose
first three fields are required; the content is free-form and `null` when missing, and a missing
optional field is left out again when the event is written.
-/

namespace ChatIndex

/-- A room event. -/
structure RoomEvent where
  type : String
  roomId : String
  sender : String
  content : Json
  eventId : Option String
  stateKey : Option String
  redacts : Option String
  unsigned : Option Json
deriving DecidableEq, Repr, Inhabited

namespace RoomEvent

/-- The fields of an event in the order of its array form. -/
def fields : Json.FieldList :=
  [("type", .required, .any), ("room_id", .required, .any), ("sender", .required, .any),
   ("content", .defaulted, .any), ("event_id", .defaulted, .any), ("state_key", .defaulted, .any),
   ("redacts", .defaulted, .any), ("unsigned", .defaulted, .any)]

/-- The event that a value denotes. -/
def ofJson? (value : Json) : Option RoomEvent := do
  let members ← value.record? fields
  pure {
    type := ← Json.field? members "type"
    roomId := ← Json.field? members "room_id"
    sender := ← Json.field? members "sender"
    content := (Entries.get? members "content").getD .null
    eventId := ← Json.optionalField? Json.asString? members "event_id"
    stateKey := ← Json.optionalField? Json.asString? members "state_key"
    redacts := ← Json.optionalField? Json.asString? members "redacts"
    unsigned := ← Json.optionalField? some members "unsigned" }

/-- The event as a value. -/
def toJson (event : RoomEvent) : Json :=
  .ofMembers <| Json.omitAbsent
    [("type", some (.string event.type)), ("room_id", some (.string event.roomId)),
     ("sender", some (.string event.sender)), ("content", some event.content),
     ("event_id", event.eventId.map .string), ("state_key", event.stateKey.map .string),
     ("redacts", event.redacts.map .string), ("unsigned", event.unsigned)]

/-- The event that a message of the transport carries. -/
def decode? (payload : List UInt8) : Option RoomEvent :=
  (Json.readAs? (.record fields) payload).bind ofJson?

end RoomEvent

end ChatIndex
