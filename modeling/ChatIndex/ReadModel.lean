import ChatIndex.Json.Record
import ChatIndex.Text.Quoted

/-! # The read model of rooms

What the services may ask about rooms, members, messages and accounts.  The read model is the
authority on all of them; the services only read it, and never keep an answer.
-/

namespace ChatIndex

/-! ## Rows -/

/-- What is known about a room.  A room is clear unless an encryption algorithm is set. -/
structure RoomDetail where
  roomId : String
  name : Option String
  encryption : Option String
  avatar : Option String
  topic : Option String
  joinRules : Option String
  historyVisibility : Option String
  guestAccess : Option String
  isFederatable : Option Bool
  roomType : Option String
deriving DecidableEq, Repr, Inhabited

namespace RoomDetail

/-- Whether the messages of a room are plain text. -/
def isClear (room : RoomDetail) : Bool :=
  room.encryption.isNone

/-- The fields of the record form. -/
def fields : Json.FieldList :=
  [("room_id", .required, .any), ("name", .nullable, .any), ("encryption", .nullable, .any),
   ("avatar", .nullable, .any), ("topic", .nullable, .any), ("join_rules", .nullable, .any),
   ("history_visibility", .nullable, .any), ("guest_access", .nullable, .any),
   ("is_federatable", .nullable, .any), ("room_type", .nullable, .any)]

/-- The row that a value denotes. -/
def ofJson? (value : Json) : Option RoomDetail := do
  let members ← value.record? fields
  let text := Json.optionalField? Json.asString? members
  pure {
    roomId := ← Json.field? members "room_id"
    name := ← text "name"
    encryption := ← text "encryption"
    avatar := ← text "avatar"
    topic := ← text "topic"
    joinRules := ← text "join_rules"
    historyVisibility := ← text "history_visibility"
    guestAccess := ← text "guest_access"
    isFederatable := ← Json.optionalField? Json.asBool? members "is_federatable"
    roomType := ← text "room_type" }

/-- The row as a value, with all its fields. -/
def toJson (room : RoomDetail) : Json :=
  .ofMembers
    [("room_id", .string room.roomId), ("name", Json.ofOption room.name),
     ("encryption", Json.ofOption room.encryption), ("avatar", Json.ofOption room.avatar),
     ("topic", Json.ofOption room.topic), ("join_rules", Json.ofOption room.joinRules),
     ("history_visibility", Json.ofOption room.historyVisibility),
     ("guest_access", Json.ofOption room.guestAccess),
     ("is_federatable", (room.isFederatable.map Json.bool).getD .null),
     ("room_type", Json.ofOption room.roomType)]

end RoomDetail

/-- A clear room that has a name. -/
structure RoomName where
  roomId : String
  name : String
deriving DecidableEq, Repr, Inhabited

/-- The latest display name of a member in a room. -/
structure MemberName where
  roomId : String
  userId : String
  displayName : Option String
deriving DecidableEq, Repr, Inhabited

/-- A current message of a clear room, with the display name its sender has there. -/
structure RoomMessage where
  eventId : String
  roomId : String
  content : String
  sender : String
  displayName : Option String
deriving DecidableEq, Repr, Inhabited

/-- The avatar of the other participant of a direct room. -/
structure DirectAvatar where
  roomId : String
  avatarUrl : Option String
deriving DecidableEq, Repr, Inhabited

/-! ## Errors -/

/-- Why a question to the read model failed.  Room ids are unique, so more than one row for an
id is a fault that is reported and never repaired here. -/
inductive StoreError where
  | roomNotFound (roomId : String)
  | ambiguousRoom (roomId : String) (count : Nat)
  | database (reason : String)
deriving DecidableEq, Repr, Inhabited

/-- The error in words. -/
def StoreError.message : StoreError → String
  | .roomNotFound roomId => "room " ++ roomId ++ " not found"
  | .ambiguousRoom roomId count => "room " ++ roomId ++ " matched " ++ count.repr ++ " rows"
  | .database reason => "database error: " ++ reason

/-- The error with all its data, as it stands in a log record.  The words of the database are not
taken apart. -/
def StoreError.inspect : StoreError → String
  | .roomNotFound roomId => "RoomNotFound(" ++ Text.quote roomId ++ ")"
  | .ambiguousRoom roomId count =>
    "AmbiguousRoom \x7b room_id: " ++ Text.quote roomId ++ ", count: " ++ count.repr ++ " \x7d"
  | .database reason => "Database(" ++ reason ++ ")"

/-! ## Questions -/

/-- A question to the read model. -/
inductive ReadCall where
  /-- The clear rooms that have a name. -/
  | clearRoomNames
  | roomDetail (roomId : String)
  | roomDetails (roomIds : List String)
  /-- Whether a redaction of an event is on record. -/
  | isRedacted (eventId : String)
  | displayName (roomId userId : String)
  /-- The current messages of all clear rooms. -/
  | clearRoomMessages
  /-- The rooms in which a user has any membership record. -/
  | roomsOfUser (userId : String)
  /-- Those of the given rooms that are direct. -/
  | directRooms (roomIds : List String)
  /-- The avatar of the other participant of each of the given rooms. -/
  | directAvatars (roomIds : List String) (userId : String)
  | userOfToken (token : String)
  | emailOfUser (userId : String)
deriving DecidableEq, Repr, Inhabited

namespace ReadCall

/-- What a question that succeeds answers. -/
abbrev Value : ReadCall → Type
  | .clearRoomNames => List RoomName
  | .roomDetail _ => RoomDetail
  | .roomDetails _ => List RoomDetail
  | .isRedacted _ => Bool
  | .displayName .. | .userOfToken _ | .emailOfUser _ => Option String
  | .clearRoomMessages => List RoomMessage
  | .roomsOfUser _ | .directRooms _ => List String
  | .directAvatars .. => List DirectAvatar

/-- The name of a question. -/
def name : ReadCall → String
  | .clearRoomNames => "get_all_clear_rooms_names"
  | .roomDetail _ => "get_room_detail"
  | .roomDetails _ => "get_rooms_details"
  | .isRedacted _ => "is_redacted"
  | .displayName .. => "get_user_display_name"
  | .clearRoomMessages => "get_all_clear_rooms_messages"
  | .roomsOfUser _ => "get_user_rooms_ids"
  | .directRooms _ => "get_direct_rooms_ids"
  | .directAvatars .. => "get_direct_rooms_avatar_url"
  | .userOfToken _ => "get_user_id_by_access_token"
  | .emailOfUser _ => "get_user_email"

end ReadCall

end ChatIndex
