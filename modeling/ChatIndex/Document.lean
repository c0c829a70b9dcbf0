import ChatIndex.Json.Record

/-! # The documents of the indices

The rooms index holds a document for each clear room with a name, the messages index one for
each message of a clear room.  A document repeats its id among its fields, so that a reader need
not look at the key.
-/

namespace ChatIndex

/-- A document of the rooms index. -/
structure RoomDocument where
  id : String
  name : String
deriving DecidableEq, Repr, Inhabited

/-- A document of the messages index.  The display name is the one the sender had in the room
when the document was last written. -/
structure MessageDocument where
  id : String
  roomId : String
  content : String
  sender : String
  displayName : Option String
deriving DecidableEq, Repr, Inhabited

namespace RoomDocument

/-- The fields of the record form. -/
def fields : Json.FieldList :=
  [("id", .defaulted, .any), ("name", .required, .any)]

/-- The document that a value denotes. -/
def ofJson? (value : Json) : Option RoomDocument := do
  let members ← value.record? fields
  pure { id := ← Json.fieldOrEmpty? members "id", name := ← Json.field? members "name" }

/-- What is wrong with a document that should denote a room. -/
def fault? (document : Document) : Option String :=
  Json.fault? fields document

/-- The fields as they are stored. -/
def toDocument (room : RoomDocument) : Document :=
  .ofList [("id", .string room.id), ("name", .string room.name)]

end RoomDocument

namespace MessageDocument

/-- The fields of the record form. -/
def fields : Json.FieldList :=
  [("id", .defaulted, .any), ("room_id", .required, .any), ("content", .required, .any),
   ("sender", .required, .any), ("display_name", .nullable, .any)]

/-- The document that a value denotes. -/
def ofJson? (value : Json) : Option MessageDocument := do
  let members ← value.record? fields
  pure {
    id := ← Json.fieldOrEmpty? members "id"
    roomId := ← Json.field? members "room_id"
    content := ← Json.field? members "content"
    sender := ← Json.field? members "sender"
    displayName := ← Json.optionalField? Json.asString? members "display_name" }

/-- What is wrong with a document that should denote a message. -/
def fault? (document : Document) : Option String :=
  Json.fault? fields document

/-- The fields as they are stored. -/
def toDocument (message : MessageDocument) : Document :=
  .ofList
    [("id", .string message.id), ("room_id", .string message.roomId),
     ("content", .string message.content), ("sender", .string message.sender),
     ("display_name", Json.ofOption message.displayName)]

end MessageDocument

end ChatIndex
