import ChatIndex.Event
import ChatIndex.Text.Space
import ChatIndex.Text.Quoted

/-! # What an event changes in the indices

Of all room events five types matter: a new name, encryption, a message or an edit of one, a
redaction, and a member's new display name.  `RoomEvent.change?` tells which change an event
asks for, if any, or why an event of such a type cannot be understood.
-/

namespace ChatIndex

/-- A change that an event asks of the indices. -/
inductive Change where
  | roomNameChanged (roomId : String) (name : Option String)
  | roomEncrypted (roomId algorithm : String)
  | messageSent (roomId eventId sender body : String)
  | messageEdited (roomId targetEventId body : String)
  | messageRedacted (roomId eventId : String)
  | displayNameChanged (roomId userId displayName : String)
deriving DecidableEq, Repr, Inhabited

/-- Why an event of a relevant type asks for nothing that can be done. -/
inductive Malformed where
  | missingEventId (eventType : String)
  | missingEditTarget
  | missingEditBody
  | invalidRedactionTarget (target : Option String)
deriving DecidableEq, Repr, Inhabited

/-- The reason in words. -/
def Malformed.message : Malformed → String
  | .missingEventId eventType => eventType ++ " event without event_id"
  | .missingEditTarget => "edit event without target event id"
  | .missingEditBody => "edit event without m.new_content.body"
  | .invalidRedactionTarget target =>
    "redaction target " ++ Text.quoteOption target ++ " is not an event id"

/-- An event id is `$` followed by at least one character, none of them white space or a control
character. -/
def isEventId (s : String) : Bool :=
  match s.toList with
  | '$' :: rest => !rest.isEmpty && !rest.any fun c => Text.isSpace c || Text.isControl c
  | _ => false

namespace Change

/-- The name of a kind of change. -/
def kind : Change → String
  | .roomNameChanged .. => "room_name_changed"
  | .roomEncrypted .. => "room_encrypted"
  | .messageSent .. => "message_sent"
  | .messageEdited .. => "message_edited"
  | .messageRedacted .. => "message_redacted"
  | .displayNameChanged .. => "display_name_changed"

/-- The room whose event asks for a change. -/
def roomId : Change → String
  | .roomNameChanged roomId _ | .roomEncrypted roomId _ | .messageSent roomId _ _ _
  | .messageEdited roomId _ _ | .messageRedacted roomId _ | .displayNameChanged roomId _ _ => roomId

end Change

namespace RoomEvent

/-- Whether a message is an edit: its content has `m.new_content` and says
that it replaces another one. -/
def isEdit (event : RoomEvent) : Bool :=
  (event.content.get? "m.new_content").isSome &&
    ((event.content.get? "m.relates_to").bind (·.getString? "rel_type")) = some "m.replace"

/-- What an edit asks for. -/
def editChange (event : RoomEvent) : Except Malformed Change :=
  let target := (event.content.get? "m.relates_to").bind (·.getString? "event_id")
  let body := (event.content.get? "m.new_content").bind (·.getString? "body")
  match target.filter (· ≠ ""), body with
  | none, _ => .error .missingEditTarget
  | some _, none => .error .missingEditBody
  | some target, some body => .ok (.messageEdited event.roomId target body)

/-- What a message that is no edit asks for.  A redacted message and one that is not text have
no body. -/
def messageChange? (event : RoomEvent) : Except Malformed (Option Change) :=
  match event.content.getString? "body", event.eventId with
  | none, _ => .ok none
  | some _, none => .error (.missingEventId event.type)
  | some body, some eventId => .ok (some (.messageSent event.roomId eventId event.sender body))

/-- What a redaction asks for.  The target stands in the event itself or, failing that, in its
content. -/
def redactionChange (event : RoomEvent) : Except Malformed Change :=
  match event.redacts.or (event.content.getString? "redacts") with
  | some target =>
    if isEventId target then .ok (.messageRedacted event.roomId target)
    else .error (.invalidRedactionTarget (some target))
  | none => .error (.invalidRedactionTarget none)

/-- What a membership event asks for: something only if it replaces one display name by another.
The member is named by the state key or, failing that, is the sender. -/
def memberChange? (event : RoomEvent) : Option Change :=
  let previous := (event.unsigned.bind (·.get? "prev_content")).bind (·.getString? "displayname")
  match event.content.getString? "displayname", previous with
  | some new, some old =>
    if new = old then none
    else some (.displayNameChanged event.roomId (event.stateKey.getD event.sender) new)
  | _, _ => none

/-- The change that an event asks for; `none` if it has no effect on the indices. -/
def change? (event : RoomEvent) : Except Malformed (Option Change) :=
  if event.type = "m.room.name" then
    let name := (event.content.getString? "name").filter fun name => !Text.isBlank name
    .ok (some (.roomNameChanged event.roomId name))
  else if event.type = "m.room.encryption" then
    .ok ((event.content.getString? "algorithm").map (.roomEncrypted event.roomId))
  else if event.type = "m.room.message" then
    if event.isEdit then event.editChange.map some else event.messageChange?
  else if event.type = "m.room.redaction" then event.redactionChange.map some
  else if event.type = "m.room.member" then .ok event.memberChange?
  else .ok none

end RoomEvent

end ChatIndex
