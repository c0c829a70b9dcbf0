import ChatIndex.Proofs.Exchange
import ChatIndex.Sync

/-!
# What happens while a change is carried out

Every way in which a change can be carried out, whatever the two sides answer: the exchanges in
their order, the log records and what becomes of the change.  Each later statement on events is
read off the cases of `Handling`, and none opens a course of requests again.

* `handling_of_ends_apply`   a change is carried out in one of these ways
* `handling_of_ends_handle`  an event that asks for a change carries it out and logs the outcome
-/

namespace ChatIndex

/-- Settings with an index of its own for each kind of document. -/
def SyncSettings.plain : SyncSettings :=
  ⟨⟨"rooms", "messages", "mails"⟩, .everywhere⟩

namespace Sync

open Attempt

variable {s : SyncSettings} {es : List Exchange} {ls : List LogRecord}

/-- What becomes of a change whose last request got this answer. -/
def closing {α : Type} (answer : Except EngineError α) : Except CallError SyncOutcome :=
  match answer with
  | .ok _ => .ok .applied
  | .error e => .error (.engine e)

/-- What is logged when the documents of an encrypted room were removed. -/
def encryptionRecords (roomId algorithm : String) (outcome : ByQueryOutcome) : List LogRecord :=
  ⟨.info, "Room encrypted; removed its documents from search indices",
    [("room_id", roomId), ("algorithm", algorithm), ("deleted", outcome.applied.repr),
     ("version_conflicts", outcome.versionConflicts.repr)]⟩ ::
  if 0 < outcome.failures then
    [⟨.warn, "Some message documents of an encrypted room could not be deleted",
      [("room_id", roomId), ("failures", outcome.failures.repr)]⟩]
  else []

/-- What is logged when a display name was written. -/
def displayNameRecords (roomId userId : String) (outcome : ByQueryOutcome) : List LogRecord :=
  if 0 < outcome.versionConflicts ∨ 0 < outcome.failures then
    [⟨.warn, "Display name propagation skipped some documents",
      [("user_id", userId), ("room_id", roomId), ("updated", outcome.applied.repr),
       ("version_conflicts", outcome.versionConflicts.repr),
       ("failures", outcome.failures.repr)]⟩]
  else []

/-- The request that writes a room's new name, or removes the document of a room without one. -/
def renameCall (s : SyncSettings) (roomId : String) : Option String → EngineCall
  | some name =>
    .indexDocuments (KeyMap.empty.insert s.indices.rooms [RoomDocument.entry ⟨roomId, name⟩])
  | none => .deleteDocument s.indices.rooms roomId

/-- The request that changes the content of a message. -/
def editCall (s : SyncSettings) (targetEventId body : String) : EngineCall :=
  .updateDocument s.indices.messages targetEventId (KeyMap.empty.insert "content" (.string body))

/-- The request that removes the messages of a room. -/
def removalCall (s : SyncSettings) (roomId : String) : EngineCall :=
  .deleteDocuments s.indices.messages (.field "room_id" roomId)

/-- The request that writes a member's new display name. -/
def displayNameCall (s : SyncSettings) (roomId userId displayName : String) : EngineCall :=
  .updateDocuments s.indices.messages "display_name" (.string displayName)
    (displayNameQuery s roomId userId)

/-! ## All ways to carry out a change -/

/-- The exchanges, log records and outcomes with which a change can be carried out. -/
inductive Handling (s : SyncSettings) :
    Change → List Exchange → List LogRecord → Except CallError SyncOutcome → Prop
  | renameUnread (roomId name e) :
      Handling s (.roomNameChanged roomId name) [⟨.read (.roomDetail roomId), .error e⟩] []
        (.error (.store e))
  | renameSkipped (roomId name) (room : RoomDetail) (hclear : room.isClear = false) :
      Handling s (.roomNameChanged roomId name) [⟨.read (.roomDetail roomId), .ok room⟩] []
        (.ok .skippedEncryptedRoom)
  | named (roomId) (name : String) (room : RoomDetail) (answer : Except EngineError Unit)
      (hclear : room.isClear = true) :
      Handling s (.roomNameChanged roomId (some name))
        [⟨.read (.roomDetail roomId), .ok room⟩,
         ⟨.engine (renameCall s roomId (some name)), answer⟩] [] (closing answer)
  | unnamed (roomId) (room : RoomDetail) (answer : Except EngineError Unit)
      (hclear : room.isClear = true) :
      Handling s (.roomNameChanged roomId none)
        [⟨.read (.roomDetail roomId), .ok room⟩,
         ⟨.engine (renameCall s roomId none), answer⟩] [] (closing answer)
  | roomKept (roomId algorithm e) :
      Handling s (.roomEncrypted roomId algorithm)
        [⟨.engine (.deleteDocument s.indices.rooms roomId), .error e⟩] [] (.error (.engine e))
  | messagesKept (roomId algorithm e) :
      Handling s (.roomEncrypted roomId algorithm)
        [⟨.engine (.deleteDocument s.indices.rooms roomId), .ok ()⟩,
         ⟨.engine (removalCall s roomId), .error e⟩] [] (.error (.engine e))
  | encrypted (roomId algorithm) (outcome : ByQueryOutcome) :
      Handling s (.roomEncrypted roomId algorithm)
        [⟨.engine (.deleteDocument s.indices.rooms roomId), .ok ()⟩,
         ⟨.engine (removalCall s roomId), .ok outcome⟩]
        (encryptionRecords roomId algorithm outcome) (.ok .applied)
  | senderUnread (roomId eventId sender body e) :
      Handling s (.messageSent roomId eventId sender body)
        [⟨.read (.displayName roomId sender), .error e⟩] [] (.error (.store e))
  | indexUnread (roomId eventId sender body) (displayName : Option String) (e) :
      Handling s (.messageSent roomId eventId sender body)
        [⟨.read (.displayName roomId sender), .ok displayName⟩,
         ⟨.engine (.documentExists s.indices.rooms roomId), .error e⟩] [] (.error (.engine e))
  | redactionUnread (roomId eventId sender body) (displayName : Option String) (indexed : Bool)
      (e) :
      Handling s (.messageSent roomId eventId sender body)
        [⟨.read (.displayName roomId sender), .ok displayName⟩,
         ⟨.engine (.documentExists s.indices.rooms roomId), .ok indexed⟩,
         ⟨.read (.isRedacted eventId), .error e⟩] [] (.error (.store e))
  | redacted (roomId eventId sender body) (displayName : Option String) (indexed : Bool) :
      Handling s (.messageSent roomId eventId sender body)
        [⟨.read (.displayName roomId sender), .ok displayName⟩,
         ⟨.engine (.documentExists s.indices.rooms roomId), .ok indexed⟩,
         ⟨.read (.isRedacted eventId), .ok true⟩] [] (.ok .skippedRedactedMessage)
  | roomUnread (roomId eventId sender body) (displayName : Option String) (indexed : Bool) (e) :
      Handling s (.messageSent roomId eventId sender body)
        [⟨.read (.displayName roomId sender), .ok displayName⟩,
         ⟨.engine (.documentExists s.indices.rooms roomId), .ok indexed⟩,
         ⟨.read (.isRedacted eventId), .ok false⟩,
         ⟨.read (.roomDetail roomId), .error e⟩] [] (.error (.store e))
  | messageSkipped (roomId eventId sender body) (displayName : Option String) (indexed : Bool)
      (room : RoomDetail) (hclear : room.isClear = false) :
      Handling s (.messageSent roomId eventId sender body)
        [⟨.read (.displayName roomId sender), .ok displayName⟩,
         ⟨.engine (.documentExists s.indices.rooms roomId), .ok indexed⟩,
         ⟨.read (.isRedacted eventId), .ok false⟩,
         ⟨.read (.roomDetail roomId), .ok room⟩] [] (.ok .skippedEncryptedRoom)
  | written (roomId eventId sender body) (displayName : Option String) (indexed : Bool)
      (room : RoomDetail) (answer : Except EngineError Unit) (hclear : room.isClear = true) :
      Handling s (.messageSent roomId eventId sender body)
        [⟨.read (.displayName roomId sender), .ok displayName⟩,
         ⟨.engine (.documentExists s.indices.rooms roomId), .ok indexed⟩,
         ⟨.read (.isRedacted eventId), .ok false⟩,
         ⟨.read (.roomDetail roomId), .ok room⟩,
         ⟨.engine (.indexDocuments
            (messageBatch s ⟨eventId, roomId, body, sender, displayName⟩ room indexed)), answer⟩]
        [] (closing answer)
  | edited (roomId targetEventId body) (answer : Except EngineError Unit) :
      Handling s (.messageEdited roomId targetEventId body)
        [⟨.engine (editCall s targetEventId body), answer⟩] [] (closing answer)
  | removed (roomId eventId) (answer : Except EngineError Unit) :
      Handling s (.messageRedacted roomId eventId)
        [⟨.engine (.deleteDocument s.indices.messages eventId), answer⟩] [] (closing answer)
  | displayNameKept (roomId userId displayName e) :
      Handling s (.displayNameChanged roomId userId displayName)
        [⟨.engine (displayNameCall s roomId userId displayName), .error e⟩] [] (.error (.engine e))
  | displayNameWritten (roomId userId displayName) (outcome : ByQueryOutcome) :
      Handling s (.displayNameChanged roomId userId displayName)
        [⟨.engine (displayNameCall s roomId userId displayName), .ok outcome⟩]
        (displayNameRecords roomId userId outcome) (.ok .applied)

/-! ## One lemma per kind of change -/

variable {r : Except CallError SyncOutcome}

/-- The last request of a change. -/
private theorem ends_closing {c : EngineCall} {after : c.Value → Attempt CallError SyncOutcome}
    (hafter : ∀ value, after value = pure .applied)
    (h : (engine c >>= after).run.Ends es ls r) :
    ∃ answer, es = [⟨.engine c, answer⟩] ∧ ls = [] ∧ r = closing answer := by
  rw [ends_engine_bind] at h
  obtain ⟨e, rfl, rfl, rfl⟩ | ⟨value, es', rfl, h⟩ := h
  · exact ⟨.error e, rfl, rfl, rfl⟩
  · rw [hafter, ends_pure] at h
    obtain ⟨rfl, rfl, rfl⟩ := h
    exact ⟨.ok value, rfl, rfl, rfl⟩

/-- A rename asks about the room first, and makes its request in a clear room only. -/
private theorem handling_roomNameChanged {roomId : String} {name : Option String}
    (h : (onRoomNameChanged s roomId name).run.Ends es ls r) :
    Handling s (.roomNameChanged roomId name) es ls r := by
  rw [onRoomNameChanged, ends_read_bind] at h
  obtain ⟨e, rfl, rfl, rfl⟩ | ⟨room, es', rfl, h⟩ := h
  · exact .renameUnread roomId name e
  · cases hclear : RoomDetail.isClear room with
    | false =>
      rw [if_pos (by rw [hclear]; rfl), ends_pure] at h
      obtain ⟨rfl, rfl, rfl⟩ := h
      exact .renameSkipped roomId name room hclear
    | true =>
      -- A clear room, so one more request follows.
      rw [if_neg (by rw [hclear]; decide)] at h
      cases name with
      | some name =>
        obtain ⟨answer, rfl, rfl, rfl⟩ := ends_closing (fun _ => rfl) h
        exact .named roomId name room answer hclear
      | none =>
        obtain ⟨answer, rfl, rfl, rfl⟩ := ends_closing (fun _ => rfl) h
        exact .unnamed roomId room answer hclear

/-- An encryption removes the room, then the messages, and logs what became of them. -/
private theorem handling_roomEncrypted {roomId algorithm : String}
    (h : (onRoomEncrypted s roomId algorithm).run.Ends es ls r) :
    Handling s (.roomEncrypted roomId algorithm) es ls r := by
  rw [onRoomEncrypted, ends_engine_bind] at h
  obtain ⟨e, rfl, rfl, rfl⟩ | ⟨_, es', rfl, h⟩ := h
  · exact .roomKept roomId algorithm e
  · rw [ends_engine_bind] at h
    obtain ⟨e, rfl, rfl, rfl⟩ | ⟨outcome, es', rfl, h⟩ := h
    · exact .messagesKept roomId algorithm e
    · rw [ends_record_bind] at h
      obtain ⟨ls', rfl, h⟩ := h
      -- Both branches log the same first record, and only one of them a second.
      have hrecords := Handling.encrypted (s := s) roomId algorithm outcome
      unfold encryptionRecords at hrecords
      split at h
      · next hfailures =>
        rw [ends_record_bind] at h
        obtain ⟨ls', rfl, h⟩ := h
        obtain ⟨rfl, rfl, rfl⟩ := ends_pure.1 h
        rwa [if_pos hfailures] at hrecords
      · next hfailures =>
        obtain ⟨rfl, rfl, rfl⟩ := ends_pure.1 h
        rwa [if_neg hfailures] at hrecords

/-- A message asks four questions in a fixed order, any of which may be the last. -/
private theorem handling_messageSent {roomId eventId sender body : String}
    (h : (onMessageSent s roomId eventId sender body).run.Ends es ls r) :
    Handling s (.messageSent roomId eventId sender body) es ls r := by
  rw [onMessageSent, ends_read_bind] at h
  obtain ⟨e, rfl, rfl, rfl⟩ | ⟨displayName, es', rfl, h⟩ := h
  · exact .senderUnread roomId eventId sender body e
  rw [ends_engine_bind] at h
  obtain ⟨e, rfl, rfl, rfl⟩ | ⟨indexed, es', rfl, h⟩ := h
  · exact .indexUnread roomId eventId sender body displayName e
  rw [ends_read_bind] at h
  obtain ⟨e, rfl, rfl, rfl⟩ | ⟨redacted, es', rfl, h⟩ := h
  · exact .redactionUnread roomId eventId sender body displayName indexed e
  cases hredacted : (redacted : Bool) with
  | true =>
    rw [if_pos hredacted, ends_pure] at h
    obtain ⟨rfl, rfl, rfl⟩ := h
    exact .redacted roomId eventId sender body displayName indexed
  | false =>
    -- The room is read last of all, and only for a message that is not redacted.
    rw [if_neg (by rw [hredacted]; decide), ends_read_bind] at h
    obtain ⟨e, rfl, rfl, rfl⟩ | ⟨room, es', rfl, h⟩ := h
    · exact .roomUnread roomId eventId sender body displayName indexed e
    cases hclear : RoomDetail.isClear room with
    | false =>
      rw [if_pos (by rw [hclear]; rfl), ends_pure] at h
      obtain ⟨rfl, rfl, rfl⟩ := h
      exact .messageSkipped roomId eventId sender body displayName indexed room hclear
    | true =>
      rw [if_neg (by rw [hclear]; decide)] at h
      obtain ⟨answer, rfl, rfl, rfl⟩ := ends_closing (fun _ => rfl) h
      exact .written roomId eventId sender body displayName indexed room answer hclear

/-- A new display name makes one request, and logs what it left out. -/
private theorem handling_displayNameChanged {roomId userId displayName : String}
    (h : (onDisplayNameChanged s roomId userId displayName).run.Ends es ls r) :
    Handling s (.displayNameChanged roomId userId displayName) es ls r := by
  rw [onDisplayNameChanged, ends_engine_bind] at h
  obtain ⟨e, rfl, rfl, rfl⟩ | ⟨outcome, es', rfl, h⟩ := h
  · exact .displayNameKept roomId userId displayName e
  · have hrecords := Handling.displayNameWritten (s := s) roomId userId displayName outcome
    unfold displayNameRecords at hrecords
    split at h
    · -- Documents were left out, which is logged.
      next hskipped =>
      rw [ends_record_bind] at h
      obtain ⟨ls', rfl, h⟩ := h
      obtain ⟨rfl, rfl, rfl⟩ := ends_pure.1 h
      rwa [if_pos hskipped] at hrecords
    · next hskipped =>
      obtain ⟨rfl, rfl, rfl⟩ := ends_pure.1 h
      rwa [if_neg hskipped] at hrecords

/-- A change is carried out in one of the ways that `Handling` lists. -/
theorem handling_of_ends_apply {c : Change} (h : (apply s c).run.Ends es ls r) :
    Handling s c es ls r := by
  cases c with
  | roomNameChanged roomId name => exact handling_roomNameChanged h
  | roomEncrypted roomId algorithm => exact handling_roomEncrypted h
  | messageSent roomId eventId sender body => exact handling_messageSent h
  | messageEdited roomId targetEventId body =>
    obtain ⟨answer, rfl, rfl, rfl⟩ := ends_closing (fun _ => rfl) h
    exact .edited roomId targetEventId body answer
  | messageRedacted roomId eventId =>
    obtain ⟨answer, rfl, rfl, rfl⟩ := ends_closing (fun _ => rfl) h
    exact .removed roomId eventId answer
  | displayNameChanged roomId userId displayName => exact handling_displayNameChanged h

/-! ## Events -/

/-- An event that asks for no change makes no request; any other one carries its change out and
logs the outcome last. -/
theorem ends_apply_of_ends_handle {event : RoomEvent} (h : (handle s event).Ends es ls ()) :
    (es = [] ∧ ∀ c, event.change? ≠ .ok (some c)) ∨
      ∃ c r ls', event.change? = .ok (some c) ∧ (apply s c).run.Ends es ls' r ∧
        ls = ls' ++ [outcomeRecord event c r] := by
  unfold handle at h
  split at h
  · next hchange =>
    obtain ⟨_, -, h⟩ := Course.ends_log.1 h
    exact .inl ⟨(Course.ends_done.1 h).1, fun c hc => by simp [hchange] at hc⟩
  · next malformed hchange =>
    obtain ⟨_, -, h⟩ := Course.ends_log.1 h
    exact .inl ⟨(Course.ends_done.1 h).1, fun c hc => by simp [hchange] at hc⟩
  · -- A change that is asked for is carried out, and its outcome is the last record.
    next c hchange =>
    rw [Course.ends_bind] at h
    obtain ⟨r, es₁, es₂, ls₁, ls₂, happly, hlog, rfl, rfl⟩ := h
    obtain ⟨_, rfl, hdone⟩ := Course.ends_log.1 hlog
    obtain ⟨rfl, rfl, -⟩ := Course.ends_done.1 hdone
    rw [List.append_nil]
    exact .inr ⟨c, r, ls₁, hchange, happly, rfl⟩

/-- The same with the way in which the change is carried out. -/
theorem handling_of_ends_handle {event : RoomEvent} (h : (handle s event).Ends es ls ()) :
    (es = [] ∧ ∀ c, event.change? ≠ .ok (some c)) ∨
      ∃ c r ls', event.change? = .ok (some c) ∧ Handling s c es ls' r ∧
        ls = ls' ++ [outcomeRecord event c r] := by
  obtain hnone | ⟨c, r, ls', hchange, happly, hls⟩ := ends_apply_of_ends_handle h
  · exact .inl hnone
  · exact .inr ⟨c, r, ls', hchange, handling_of_ends_apply happly, hls⟩

/-- What is logged while a change is carried out is information or a warning.  An outcome is
neither: it is logged for debugging or as an error. -/
theorem Handling.level_of_mem {c : Change} {r : Except CallError SyncOutcome}
    (h : Handling s c es ls r) : ∀ record ∈ ls, record.level = .info ∨ record.level = .warn := by
  cases h with
  | encrypted roomId algorithm outcome =>
    unfold encryptionRecords
    split <;> simp
  | displayNameWritten roomId userId displayName outcome =>
    unfold displayNameRecords
    split <;> simp
  | _ => exact fun record hrecord => absurd hrecord List.not_mem_nil

/-- The record of a change that was carried out is that of no other outcome. -/
theorem eq_of_outcomeRecord_eq {event : RoomEvent} {c : Change} {r : Except CallError SyncOutcome}
    (h : outcomeRecord event c (.ok .applied) = outcomeRecord event c r) : r = .ok .applied := by
  obtain e | outcome := r
  · simp [outcomeRecord] at h
  · cases outcome with
    | applied => rfl
    | skippedEncryptedRoom | skippedRedactedMessage => simp [outcomeRecord] at h

/-- An event whose change is on record as carried out was handled in that way. -/
theorem handling_of_applied {event : RoomEvent} {c : Change}
    (hchange : event.change? = .ok (some c)) (h : (handle s event).Ends es ls ())
    (happlied : outcomeRecord event c (.ok .applied) ∈ ls) :
    ∃ ls', Handling s c es ls' (.ok .applied) := by
  obtain ⟨-, hnone⟩ | ⟨c', r, ls', hc', hhandling, rfl⟩ := handling_of_ends_handle h
  · exact absurd hchange (hnone c)
  · rw [hchange] at hc'
    cases hc'
    -- The record is the last one, for none of those before it is of its level.
    obtain hmem | hlast := List.mem_append.1 happlied
    · obtain hlevel | hlevel := hhandling.level_of_mem _ hmem <;> cases hlevel
    · rw [eq_of_outcomeRecord_eq (List.mem_singleton.1 hlast)] at hhandling
      exact ⟨ls', hhandling⟩

end Sync

end ChatIndex
