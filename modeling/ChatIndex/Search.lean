import ChatIndex.Config
import ChatIndex.Document
import ChatIndex.Program
import ChatIndex.Search.Mail
import ChatIndex.Search.Pattern

/-! # Searching rooms, messages and mails

A search asks the engine for hits in all three indices at once and keeps what its user may see:
rooms and messages of rooms that the user is or was a member of, and mails that the user's own
address takes part in.  What is left is completed from the read model: each hit gets the avatar
of its room, a message also the room's name; in a direct room it is the other participant's
avatar, and no name.

The two sets of ids that the read model is asked about have no order of their own; a `Listing` is
the order in which each of them is put into a request.
-/

namespace ChatIndex

/-- Why a search gave no results. -/
inductive QueryError where
  | invalid (reason : String)
  | call (e : CallError)
deriving DecidableEq, Repr, Inhabited

/-- The error in words; that of a request is passed on as it is. -/
def QueryError.message : QueryError → String
  | .invalid reason => "invalid search request: " ++ reason
  | .call (.engine e) => e.message
  | .call (.store e) => e.message

namespace Search

open Attempt

/-! ## Results -/

/-- A room that was found. -/
structure RoomResult where
  id : String
  name : String
  avatarUrl : Option String
deriving DecidableEq, Repr, Inhabited

/-- A message that was found.  In a direct room it has no room name. -/
structure MessageResult where
  id : String
  roomId : String
  content : String
  sender : String
  displayName : Option String
  avatarUrl : Option String
  roomName : Option String
deriving DecidableEq, Repr, Inhabited

/-- All that was found.  Mails are the documents as stored, with their id. -/
structure Results where
  rooms : List RoomResult
  messages : List MessageResult
  mails : List Document
deriving DecidableEq, Inhabited

/-- A room as a value. -/
def RoomResult.toJson (room : RoomResult) : Json :=
  .ofMembers
    [("id", .string room.id), ("name", .string room.name),
     ("avatar_url", Json.ofOption room.avatarUrl)]

/-- A message as a value. -/
def MessageResult.toJson (m : MessageResult) : Json :=
  .ofMembers
    [("id", .string m.id), ("room_id", .string m.roomId), ("content", .string m.content),
     ("sender", .string m.sender), ("display_name", Json.ofOption m.displayName),
     ("avatar_url", Json.ofOption m.avatarUrl), ("room_name", Json.ofOption m.roomName)]

/-- The results as a value. -/
def Results.toJson (r : Results) : Json :=
  .ofMembers
    [("rooms", .array (r.rooms.map RoomResult.toJson)),
     ("messages", .array (r.messages.map MessageResult.toJson)),
     ("mails", .array (r.mails.map Json.ofDocument))]

/-! ## What is asked of the engine -/

/-- The fields of mails that are searched. -/
def mailFields : List String :=
  ["subject", "textBody", "from.name", "from.address", "to.name", "to.address", "cc.name",
   "cc.address", "bcc.name", "bcc.address", "attachments.fileName", "attachments.textContent",
   "userFlags"]

/-- The fields that are searched: rooms first, then messages, then mails. -/
def targets (names : IndexNames) : List IndexFields :=
  [⟨names.rooms, ["name"]⟩, ⟨names.messages, ["display_name", "content"]⟩,
   ⟨names.mails, mailFields⟩]

/-- The pattern of a text that may be searched for: not blank, and not too long once escaped. -/
def pattern (text : String) : Except QueryError String :=
  if Text.isBlank text then .error (.invalid "searchValue must not be empty")
  else
    let pattern := containsPattern text
    if maxPatternLength < pattern.length then
      .error (.invalid ("searchValue is too long (limit " ++ maxPatternLength.repr ++
        " characters once escaped)"))
    else .ok pattern

/-! ## What the user may see -/

/-- What the source of a hit denotes; if it denotes nothing, what is wrong with it. -/
def readHit {α : Type} (ofJson? : Json → Option α) (fault? : Document → Option String)
    (hit : SearchHit) : Except EngineError α :=
  match ofJson? (Json.ofDocument hit.source) with
  | some a => .ok a
  | none => .error (.serialization ((fault? hit.source).getD ""))

/-- The room of a hit.  Its id is that of the hit, whatever the document says. -/
def roomOfHit (hit : SearchHit) : Except EngineError RoomDocument :=
  (readHit RoomDocument.ofJson? RoomDocument.fault? hit).map fun room => { room with id := hit.id }

/-- The message of a hit.  Its id is that of the hit, whatever the document says. -/
def messageOfHit (hit : SearchHit) : Except EngineError MessageDocument :=
  (readHit MessageDocument.ofJson? MessageDocument.fault? hit).map fun message =>
    { message with id := hit.id }

/-- The mail of a hit: the document as stored, with the id of the hit. -/
def mailOfHit (hit : SearchHit) : Document :=
  hit.source.insert "id" (.string hit.id)

/-- Whether a mail may be seen by the owner of an address; by nobody else if there is none. -/
def mayRead (email : Option String) (hit : SearchHit) : Bool :=
  email.any (mailInvolves hit.source)

/-- The hits that a user may see. -/
structure Visible where
  rooms : List RoomDocument
  messages : List MessageDocument
  mails : List Document
deriving DecidableEq, Inhabited

/-- The hits that a user may see, out of the lists of rooms, messages and mails that the engine
answered with; a list that is missing is empty.  Every room and message hit must be a document
of its index, also one that the user may not see. -/
def visible (lists : List (List SearchHit)) (userRooms : List String) (email : Option String) :
    Except EngineError Visible := do
  let hits (position : Nat) : List SearchHit := (lists[position]?).getD []
  -- Both lists are read as a whole before either is filtered.
  let rooms ← (hits 0).mapM roomOfHit
  let messages ← (hits 1).mapM messageOfHit
  pure {
    rooms := rooms.filter fun room => userRooms.contains room.id
    messages := messages.filter fun message => userRooms.contains message.roomId
    mails := ((hits 2).filter (mayRead email)).map mailOfHit }

/-! ## What the read model adds -/

/-- What is known about the rooms of a result. -/
structure RoomContext where
  details : KeyMap RoomDetail
  directRooms : List String
  directAvatars : KeyMap (Option String)

/-- A room with its avatar. -/
def RoomContext.room (context : RoomContext) (room : RoomDocument) : RoomResult :=
  ⟨room.id, room.name, (context.details.get? room.id).bind (·.avatar)⟩

/-- A message with the avatar and the name of its room. -/
def RoomContext.message (context : RoomContext) (m : MessageDocument) : MessageResult :=
  let detail := context.details.get? m.roomId
  let (avatarUrl, roomName) :=
    -- In a direct room the other participant takes the place of the room.
    if context.directRooms.contains m.roomId then
      ((context.directAvatars.get? m.roomId).join, none)
    else (detail.bind (·.avatar), detail.bind (·.name))
  ⟨m.id, m.roomId, m.content, m.sender, m.displayName, avatarUrl, roomName⟩

/-- The direct ones of the given rooms, and the avatars for them.  Nothing is asked about no
rooms. -/
def directContext (roomIds : List String) (userId : String) :
    Attempt CallError (List String × KeyMap (Option String)) := do
  if roomIds.isEmpty then
    return ([], .empty)
  let directRooms ← read (.directRooms roomIds)
  if directRooms.isEmpty then
    return ([], .empty)
  let avatars ← read (.directAvatars directRooms userId)
  return (directRooms, KeyMap.ofList (avatars.map fun a => (a.roomId, a.avatarUrl)))

/-- The orders in which ids are put into a request: those of the rooms of a user, and those of the
rooms of messages.  Each is given the ids in ascending order. -/
structure Listing where
  userRooms : List String → List String
  messageRooms : List String → List String

/-- All ids in ascending order. -/
def Listing.ascending : Listing :=
  ⟨id, id⟩

/-- Asks the read model about the rooms of a user and of the messages that were found. -/
def roomContext (listing : Listing) (userRooms : List String) (messages : List MessageDocument)
    (userId : String) : Attempt CallError RoomContext := do
  let details ← read (.roomDetails (listing.userRooms (sortedDistinct userRooms)))
  let messageRooms := listing.messageRooms (sortedDistinct (messages.map (·.roomId)))
  let (directRooms, directAvatars) ← directContext messageRooms userId
  return ⟨KeyMap.ofList (details.map fun d => (d.roomId, d)), directRooms, directAvatars⟩

/-! ## The whole search -/

/-- The results of a pattern for a user. -/
def results (listing : Listing) (names : IndexNames) (pattern userId : String)
    (email : Option String) : Attempt CallError Results := do
  let lists ← engine (.search pattern (targets names))
  let userRooms ← read (.roomsOfUser userId)
  match visible lists userRooms email with
  | .error e => throw (.engine e)
  | .ok found =>
    -- Mails are complete as they are stored.
    if found.rooms.isEmpty && found.messages.isEmpty then
      return ⟨[], [], found.mails⟩
    let context ← roomContext listing userRooms found.messages userId
    return ⟨found.rooms.map context.room, found.messages.map context.message, found.mails⟩

/-- Searches for a text on behalf of a user. -/
def runWith (listing : Listing) (names : IndexNames) (text userId : String)
    (email : Option String) : Attempt QueryError Results :=
  match pattern text with
  | .error e => throw e
  | .ok pattern => (results listing names pattern userId email).adapt .call

/-- Searches for a text on behalf of a user, with ids in ascending order. -/
def run (names : IndexNames) (text userId : String) (email : Option String) :
    Attempt QueryError Results :=
  runWith .ascending names text userId email

end Search

end ChatIndex
