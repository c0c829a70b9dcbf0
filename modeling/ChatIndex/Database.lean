import ChatIndex.Database.Query
import ChatIndex.History

/-! # The read model in the database

Each question to the read model is one query, or none where it is about no rooms.  Only the
current messages take two: the stored messages first, and then the names of the members of the
rooms they were sent in.
-/

namespace ChatIndex.Database

/-! ## Columns -/

/-- A row of one text. -/
def textRow? : Row → Option String
  | [s] => text? s
  | _ => none

/-- A row of one text that may be null. -/
def optionalTextRow? : Row → Option (Option String)
  | [s] => optionalText? s
  | _ => none

/-- A row of one truth value. -/
def boolRow? : Row → Option Bool
  | [b] => bool? b
  | _ => none

/-- A row about a room. -/
def roomDetail? : Row → Option RoomDetail
  | [roomId, name, encryption, avatar, topic, joinRules, historyVisibility, guestAccess,
      isFederatable, roomType] => do
    pure {
      roomId := ← text? roomId
      name := ← optionalText? name
      encryption := ← optionalText? encryption
      avatar := ← optionalText? avatar
      topic := ← optionalText? topic
      joinRules := ← optionalText? joinRules
      historyVisibility := ← optionalText? historyVisibility
      guestAccess := ← optionalText? guestAccess
      isFederatable := ← optionalBool? isFederatable
      roomType := ← optionalText? roomType }
  | _ => none

/-- A row with the name of a room. -/
def roomName? : Row → Option RoomName
  | [roomId, name] => return ⟨← text? roomId, ← text? name⟩
  | _ => none

/-- A row with the name of a member. -/
def memberName? : Row → Option MemberName
  | [roomId, userId, displayName] =>
    return ⟨← text? roomId, ← text? userId, ← optionalText? displayName⟩
  | _ => none

/-- A row with a stored message. -/
def storedMessage? : Row → Option StoredMessage
  | [eventId, roomId, json] => return ⟨← text? eventId, ← text? roomId, ← text? json⟩
  | _ => none

/-- A row with the avatar of a direct room. -/
def directAvatar? : Row → Option DirectAvatar
  | [roomId, avatarUrl] => return ⟨← text? roomId, ← optionalText? avatarUrl⟩
  | _ => none

/-! ## Questions about rooms -/

/-- The columns of a room, in order. -/
def roomColumns : String :=
  "room_id, name, encryption, avatar, topic, join_rules, history_visibility, guest_access, " ++
    "is_federatable, room_type"

/-- The clear rooms. -/
def clearRoomIds : Attempt (List String) :=
  all textRow? ⟨"SELECT room_id FROM room_stats_state WHERE encryption IS NULL", []⟩

/-- The clear rooms that have a name other than the empty one. -/
def clearRoomNames : Attempt (List RoomName) :=
  all roomName?
    ⟨"SELECT room_id, name FROM room_stats_state WHERE encryption IS NULL " ++
      "AND name IS NOT NULL AND name <> ''", []⟩

/-- The one row of a room. -/
def roomDetail (roomId : String) : Attempt RoomDetail := do
  let found ← all roomDetail?
    ⟨"SELECT " ++ roomColumns ++ " FROM room_stats_state WHERE room_id = $1", [.text roomId]⟩
  match found with
  | [] => throw (.roomNotFound roomId)
  | [room] => return room
  | rooms => throw (.ambiguousRoom roomId rooms.length)

/-- Whether a room is encrypted. -/
def isEncryptedRoom (roomId : String) : Attempt Bool := do
  let room ← roomDetail roomId
  return !room.isClear

/-- The rows of several rooms. -/
def roomDetails (roomIds : List String) : Attempt (List RoomDetail) :=
  if roomIds.isEmpty then return []
  else all roomDetail?
    ⟨"SELECT " ++ roomColumns ++ " FROM room_stats_state WHERE room_id = ANY($1)",
      [.texts roomIds]⟩

/-- The rooms in which a user has a membership record. -/
def roomsOfUser (userId : String) : Attempt (List String) :=
  all textRow?
    ⟨"SELECT DISTINCT room_id FROM room_memberships WHERE user_id = $1", [.text userId]⟩

/-- Those of the given rooms that somebody has marked as direct. -/
def directRooms (roomIds : List String) : Attempt (List String) :=
  if roomIds.isEmpty then return []
  else all textRow?
    ⟨"SELECT DISTINCT direct.room_id FROM account_data ad " ++
      "CROSS JOIN LATERAL jsonb_each(ad.content::jsonb) AS peers(user_id, rooms) " ++
      "CROSS JOIN LATERAL jsonb_array_elements_text( " ++
      "CASE WHEN jsonb_typeof(peers.rooms) = 'array' THEN peers.rooms ELSE '[]'::jsonb END " ++
      ") AS direct(room_id) WHERE ad.account_data_type = 'm.direct' " ++
      "AND direct.room_id = ANY($1)", [.texts roomIds]⟩

/-! ## Questions about members -/

/-- The latest display name of a member. -/
def displayName (roomId userId : String) : Attempt (Option String) := do
  let found ← first? optionalTextRow?
    ⟨"SELECT rm.display_name FROM room_memberships rm " ++
      "JOIN events e ON e.event_id = rm.event_id WHERE rm.room_id = $1 AND rm.user_id = $2 " ++
      "ORDER BY e.stream_ordering DESC LIMIT 1", [.text roomId, .text userId]⟩
  return found.join

/-- The latest display names of all members of the given rooms. -/
def memberNames (roomIds : List String) : Attempt (List MemberName) :=
  if roomIds.isEmpty then return []
  else all memberName?
    ⟨"SELECT DISTINCT ON (rm.room_id, rm.user_id) rm.room_id, rm.user_id, rm.display_name " ++
      "FROM room_memberships rm JOIN events e ON e.event_id = rm.event_id " ++
      "WHERE rm.room_id = ANY($1) ORDER BY rm.room_id, rm.user_id, e.stream_ordering DESC",
      [.texts roomIds]⟩

/-- The avatar of the latest member other than a user, for each of the given rooms. -/
def directAvatars (roomIds : List String) (userId : String) : Attempt (List DirectAvatar) :=
  if roomIds.isEmpty then return []
  else all directAvatar?
    ⟨"SELECT DISTINCT ON (rm.room_id) rm.room_id, rm.avatar_url FROM room_memberships rm " ++
      "JOIN events e ON e.event_id = rm.event_id " ++
      "WHERE rm.room_id = ANY($1) AND rm.user_id <> $2 " ++
      "ORDER BY rm.room_id, e.stream_ordering DESC", [.texts roomIds, .text userId]⟩

/-! ## Questions about messages -/

/-- Whether a redaction of an event is on record. -/
def isRedacted (eventId : String) : Attempt Bool :=
  one boolRow?
    ⟨"SELECT EXISTS (SELECT 1 FROM redactions WHERE redacts = $1)", [.text eventId]⟩

/-- The stored messages of clear rooms that are not redacted, oldest first. -/
def storedMessages : Attempt (List StoredMessage) :=
  all storedMessage?
    ⟨"SELECT ej.event_id, ej.room_id, ej.json FROM event_json ej " ++
      "JOIN events e ON e.event_id = ej.event_id " ++
      "JOIN room_stats_state rss ON rss.room_id = ej.room_id " ++
      "WHERE e.type = 'm.room.message' AND rss.encryption IS NULL " ++
      "AND NOT EXISTS ( SELECT 1 FROM redactions r WHERE r.redacts = ej.event_id ) " ++
      "ORDER BY e.stream_ordering ASC", []⟩

/-- The current messages of all clear rooms.  Stored messages that cannot be read or ask for
nothing are left out. -/
def clearRoomMessages : Attempt (List RoomMessage) := do
  let stored ← storedMessages
  let changes := stored.filterMap StoredMessage.change?
  let names ← memberNames (sortedDistinct (changes.map Change.roomId))
  return History.currentMessages changes names

/-! ## Questions about accounts -/

/-- The user of an access token that has not expired. -/
def userOfToken (token : String) : Attempt (Option String) :=
  first? textRow?
    ⟨"SELECT user_id FROM access_tokens " ++
      "WHERE token = $1 AND (valid_until_ms IS NULL OR valid_until_ms > $2)",
      [.text token, .now]⟩

/-- The oldest mail address of a user. -/
def emailOfUser (userId : String) : Attempt (Option String) :=
  first? textRow?
    ⟨"SELECT address FROM user_threepids WHERE user_id = $1 AND medium = 'email' " ++
      "ORDER BY added_at ASC LIMIT 1", [.text userId]⟩

/-! ## All questions of the services -/

/-- The answer to a question. -/
def answer : (c : ReadCall) → Attempt c.Value
  | .clearRoomNames => clearRoomNames
  | .roomDetail roomId => roomDetail roomId
  | .roomDetails roomIds => roomDetails roomIds
  | .isRedacted eventId => isRedacted eventId
  | .displayName roomId userId => displayName roomId userId
  | .clearRoomMessages => clearRoomMessages
  | .roomsOfUser userId => roomsOfUser userId
  | .directRooms roomIds => directRooms roomIds
  | .directAvatars roomIds userId => directAvatars roomIds userId
  | .userOfToken token => userOfToken token
  | .emailOfUser userId => emailOfUser userId

/-- Runs a course of queries against a server: the result, and the server after it. -/
def runAgainst {α : Type} (course : Attempt α) (server : Server) : Except StoreError α × Server :=
  let run := course.run.run Server.handler server
  (run.value, run.state)

end ChatIndex.Database
