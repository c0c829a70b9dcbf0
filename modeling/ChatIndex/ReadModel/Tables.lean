import ChatIndex.KeyMap
import ChatIndex.ReadModel

/-! # A read model in tables

The reference read model: rooms, memberships, messages, redactions, direct rooms, access tokens
and mail addresses, each as a table whose order shows in the answers.  Of several membership rows
of one user in one room the last one counts.
-/

namespace ChatIndex

/-- A user's membership record in a room. -/
structure Membership where
  roomId : String
  userId : String
  displayName : Option String
  avatarUrl : Option String
deriving DecidableEq, Repr, Inhabited

/-- A message as it is on record. -/
structure RecordedMessage where
  eventId : String
  roomId : String
  content : String
  sender : String
deriving DecidableEq, Repr, Inhabited

/-- All tables. -/
structure Tables where
  rooms : List RoomDetail
  memberships : List Membership
  messages : List RecordedMessage
  redactions : List String
  directRooms : List String
  tokens : KeyMap String
  emails : KeyMap String
deriving DecidableEq, Inhabited

namespace Tables

/-- Tables without rows. -/
def empty : Tables :=
  ⟨[], [], [], [], [], .empty, .empty⟩

/-- The display name of a user in a room. -/
def displayName (t : Tables) (roomId userId : String) : Option String :=
  (t.memberships.reverse.find? fun m => m.roomId = roomId ∧ m.userId = userId).bind (·.displayName)

/-- The one row of a room. -/
def roomDetail (t : Tables) (roomId : String) : Except StoreError RoomDetail :=
  match t.rooms.filter (·.roomId = roomId) with
  | [] => .error (.roomNotFound roomId)
  | [room] => .ok room
  | rows => .error (.ambiguousRoom roomId rows.length)

/-- Whether the first row of a room says that it is clear. -/
def isClear (t : Tables) (roomId : String) : Bool :=
  (t.rooms.find? (·.roomId = roomId)).any RoomDetail.isClear

/-- The clear rooms that have a name other than the empty one. -/
def clearRoomNames (t : Tables) : List RoomName :=
  t.rooms.filterMap fun room =>
    if room.isClear then
      (room.name.filter (· ≠ "")).map fun name => ⟨room.roomId, name⟩
    else none

/-- The messages of clear rooms that are not redacted. -/
def clearRoomMessages (t : Tables) : List RoomMessage :=
  (t.messages.filter fun m => t.isClear m.roomId && !t.redactions.contains m.eventId).map fun m =>
    ⟨m.eventId, m.roomId, m.content, m.sender, t.displayName m.roomId m.sender⟩

/-- The avatar of the last member of a room other than a user, for each room that has one. -/
def directAvatars (t : Tables) (roomIds : List String) (userId : String) : List DirectAvatar :=
  roomIds.filterMap fun roomId =>
    (t.memberships.reverse.find? fun m => m.roomId = roomId ∧ m.userId ≠ userId).map fun m =>
      ⟨roomId, m.avatarUrl⟩

/-- The answer to a question. -/
def answer (t : Tables) : (c : ReadCall) → Except StoreError c.Value
  | .clearRoomNames => .ok t.clearRoomNames
  | .roomDetail roomId => t.roomDetail roomId
  | .roomDetails roomIds => .ok (t.rooms.filter fun room => roomIds.contains room.roomId)
  | .isRedacted eventId => .ok (t.redactions.contains eventId)
  | .displayName roomId userId => .ok (t.displayName roomId userId)
  | .clearRoomMessages => .ok t.clearRoomMessages
  | .roomsOfUser userId =>
    .ok (sortedDistinct ((t.memberships.filter (·.userId = userId)).map (·.roomId)))
  | .directRooms roomIds => .ok (t.directRooms.filter roomIds.contains)
  | .directAvatars roomIds userId => .ok (t.directAvatars roomIds userId)
  | .userOfToken token => .ok (t.tokens.get? token)
  | .emailOfUser userId => .ok (t.emails.get? userId)

end Tables

end ChatIndex
