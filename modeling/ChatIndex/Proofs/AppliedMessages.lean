import ChatIndex.Proofs.Settings
import ChatIndex.Proofs.Transitions
import ChatIndex.Service
import Mathlib.Data.List.Basic

/-!
# Messages that are reported as applied

A message is reported as applied when its bulk request was accepted, so whatever the request
holds is in the indices then.  What it holds depends on their names, which the configuration is
free to choose: the request has one list of entries for each index, and where rooms and messages
go to the same one, the entry for a room takes the place of the entry for its message.  Of a named
room without a document the message is then reported as applied, and nowhere to be found.

* `document?_indexDocuments_of_ok`   what an accepted bulk request leaves of one index
* `get?_messageBatch_of_displaces`   the entry that is left if one takes the place of the other
* `indexDocuments_of_applied`        what a message that is reported as applied has done
* `indices_of_ofLookup`              where the names of the indices come from
* `applied_message_indexed_iff`      when such a message is in the index
-/

namespace ChatIndex

/-! ## Bulk requests that are accepted -/

namespace Memory

variable {m m' : Memory} {refused : List String} {i : String}

/-- A document that is written without a complaint has no id that the engine rejects. -/
theorem refused_of_writeOne {ds : Index} {b : BulkDocument}
    (h : (writeOne refused i ds b).2 = []) : refused.contains b.id = false := by
  unfold writeOne at h
  split at h
  · cases h
  · next hrefused => exact Bool.eq_false_iff.2 hrefused

/-- The same of all documents of one index. -/
theorem refused_of_writeAll {bs : List BulkDocument} {ds : Index}
    (h : (writeAll refused i ds bs).2 = []) : ∀ b ∈ bs, refused.contains b.id = false := by
  induction bs generalizing ds with
  | nil => exact List.forall_mem_nil _
  | cons b bs ih =>
    have h : (writeOne refused i ds b).2 ++
        (writeAll refused i (writeOne refused i ds b).1 bs).2 = [] := h
    obtain ⟨hone, hrest⟩ := List.append_eq_nil_iff.1 h
    exact List.forall_mem_cons.2 ⟨refused_of_writeOne hone, ih hrest⟩

/-- The same of all indices of a request. -/
theorem refused_of_writeBatch {es : List (String × List BulkDocument)} {m : Memory}
    (h : (m.writeBatch es).2 = []) : ∀ e ∈ es, ∀ b ∈ e.2, m.refused.contains b.id = false := by
  induction es generalizing m with
  | nil => exact List.forall_mem_nil _
  | cons e es ih =>
    -- Writing one index does not change which ids are rejected in the next one.
    let written := m.setDocuments e.1 (writeAll m.refused e.1 (m.documents e.1) e.2).1
    have h : (writeAll m.refused e.1 (m.documents e.1) e.2).2 ++ (written.writeBatch es).2 = [] := h
    obtain ⟨hone, hrest⟩ := List.append_eq_nil_iff.1 h
    exact List.forall_mem_cons.2 ⟨refused_of_writeAll hone, ih (m := written) hrest⟩

/-- A bulk request that was accepted has no entry with an id that the engine rejects. -/
theorem refused_of_indexDocuments {batch : BulkBatch} (h : m.indexDocuments batch = (.ok (), m')) :
    ∀ e ∈ batch.entries, ∀ b ∈ e.2, m.refused.contains b.id = false := by
  refine refused_of_writeBatch ?_
  unfold indexDocuments at h
  -- A request is answered with success only if it had no rejections.
  split at h
  · next hwritten => rw [hwritten]
  · cases congrArg Prod.fst h

/-- An index for which an accepted bulk request has one entry that is written over whatever is
there. -/
theorem document?_indexDocuments_of_ok {batch : BulkBatch} {id : String} {fields : Document}
    (h : m.indexDocuments batch = (.ok (), m'))
    (hentry : batch.get? i = some [⟨id, .index, fields⟩]) (k : String) :
    m'.document? i k = if k = id then some fields else m.document? i k := by
  have hrefused := refused_of_indexDocuments h _ (Entries.mem_of_get? hentry) _
    (List.mem_singleton_self _)
  have hafter := Sync.document?_indexDocuments_of_get?_eq_some (m := m) hentry k
  simpa only [h, hrefused, and_true] using hafter

end Memory

/-! ## The bulk request for a message -/

namespace Sync

/-- Whether in the bulk request for a message the entry for the room takes the place of the entry
for the message: both go to one index, and the room has a name and no document. -/
def Displaces (names : IndexNames) (room : RoomDetail) (indexed : Bool) : Prop :=
  names.rooms = names.messages ∧ (room.name.filter isName).isSome = true ∧ indexed = false

instance (names : IndexNames) (room : RoomDetail) (indexed : Bool) :
    Decidable (Displaces names room indexed) :=
  inferInstanceAs (Decidable (_ ∧ _ ∧ _))

/-- The same of the answer to the question whether the room has a document. -/
theorem displaces_isSome_iff {names : IndexNames} {room : RoomDetail} {d : Option Document} :
    Displaces names room d.isSome ↔
      names.rooms = names.messages ∧ (room.name.filter isName).isSome = true ∧ d = none := by
  rw [Displaces, Option.isSome_eq_false_iff, Option.isNone_iff_eq_none]

variable {s : SyncSettings} {room : RoomDetail} {indexed : Bool}

/-- The document of a room does not name a room that it belongs to, so it is that of no message. -/
theorem toDocument_room_ne (document : RoomDocument) (message : MessageDocument) :
    document.toDocument ≠ message.toDocument := by
  intro heq
  have hroom := message.get?_toDocument_roomId
  rw [← heq] at hroom
  simp [RoomDocument.toDocument, KeyMap.get?_ofList] at hroom

/-- A named room without a document is written, whatever the names of the indices are. -/
theorem get?_messageBatch_of_name (message : MessageDocument)
    (hname : (room.name.filter isName).isSome = true) :
    ∃ name, (messageBatch s message room false).get? s.indices.rooms =
      some [RoomDocument.entry ⟨message.roomId, name⟩] := by
  obtain ⟨name, hname⟩ := Option.isSome_iff_exists.1 hname
  refine ⟨name, ?_⟩
  simp [messageBatch, hname, KeyMap.get?_insert]

/-- Where one entry takes the place of the other, all that goes to the one index is the entry for
the room. -/
theorem get?_messageBatch_of_displaces (message : MessageDocument)
    (h : Displaces s.indices room indexed) :
    ∃ name, (messageBatch s message room indexed).get? s.indices.messages =
      some [RoomDocument.entry ⟨message.roomId, name⟩] := by
  obtain ⟨hnames, hname, rfl⟩ := h
  rw [← hnames]
  exact get?_messageBatch_of_name message hname

/-- Otherwise what goes to the messages index is the entry for the message. -/
theorem get?_messageBatch_of_not_displaces (message : MessageDocument)
    (h : ¬ Displaces s.indices room indexed) :
    (messageBatch s message room indexed).get? s.indices.messages = some [message.entry] := by
  by_cases hnames : s.indices.rooms = s.indices.messages
  · unfold messageBatch
    dsimp only
    split
    · -- A named room: its entry would come second, so the room must have a document already.
      next name hname =>
      have hindexed : indexed = true := by
        cases indexed with
        | true => rfl
        | false => exact absurd ⟨hnames, Option.isSome_iff_exists.2 ⟨name, hname⟩, rfl⟩ h
      rw [if_pos hindexed, KeyMap.get?_insert, if_pos rfl]
    · rw [KeyMap.get?_insert, if_pos rfl]
  · -- With two names each entry has an index to itself.
    exact get?_messageBatch_messages hnames message room indexed

/-- The entry for the message is in the request just if it is not displaced. -/
theorem mem_get?_messageBatch_iff (s : SyncSettings) (message : MessageDocument)
    (room : RoomDetail) (indexed : Bool) :
    message.entry ∈ ((messageBatch s message room indexed).get? s.indices.messages).getD [] ↔
      ¬ Displaces s.indices room indexed := by
  constructor
  · intro hmem hdisplaces
    obtain ⟨name, hentry⟩ := get?_messageBatch_of_displaces message hdisplaces
    rw [hentry, Option.getD_some, List.mem_singleton] at hmem
    -- The two entries might agree in their id, but never in their fields.
    have hfields : message.toDocument = RoomDocument.toDocument ⟨message.roomId, name⟩ :=
      congrArg BulkDocument.fields hmem
    exact toDocument_room_ne _ _ hfields.symm
  · intro h
    rw [get?_messageBatch_of_not_displaces message h, Option.getD_some]
    exact List.mem_singleton_self _

section Accepted

variable {m m' : Memory} {message : MessageDocument}

/-- After its request was accepted the message is in the index just if it was not displaced, or
was in the index before. -/
theorem document?_message_iff_of_accepted
    (hwrite : m.indexDocuments (messageBatch s message room indexed) = (.ok (), m'))
    (hindexed : indexed = (m.document? s.indices.rooms message.roomId).isSome) :
    m'.document? s.indices.messages message.id = some message.toDocument ↔
      ¬ Displaces s.indices room indexed ∨
        m.document? s.indices.messages message.id = some message.toDocument := by
  by_cases hdisplaces : Displaces s.indices room indexed
  · obtain ⟨name, hentry⟩ := get?_messageBatch_of_displaces message hdisplaces
    -- The request held the entry for the room in place of the message.
    rw [Memory.document?_indexDocuments_of_ok hwrite hentry,
      or_iff_right fun hnot => hnot hdisplaces]
    by_cases hid : message.id = message.roomId
    · -- Even where the two ids are the same the message is not found: what is there is the room.
      -- A message with the id of its room: the room has taken its place, and was not there before.
      obtain ⟨hnames, -, hnone⟩ := hdisplaces
      have hnone : m.document? s.indices.messages message.id = none := by
        rw [hid, ← hnames]
        exact Option.not_isSome_iff_eq_none.1 (Bool.eq_false_iff.1 (hindexed.symm.trans hnone))
      rw [if_pos hid, hnone]
      exact iff_of_false (fun heq => toDocument_room_ne _ _ (Option.some.inj heq)) (by simp)
    · -- What is there under the id of the message was there before.
      rw [if_neg hid]
  · have hentry := get?_messageBatch_of_not_displaces message hdisplaces
    rw [Memory.document?_indexDocuments_of_ok hwrite hentry, if_pos rfl]
    exact iff_of_true rfl (.inl hdisplaces)

/-- After the request was accepted a room that has a name has a document. -/
theorem exists_document?_room_of_accepted
    (hwrite : m.indexDocuments (messageBatch s message room indexed) = (.ok (), m'))
    (hindexed : indexed = (m.document? s.indices.rooms message.roomId).isSome)
    (hname : (room.name.filter isName).isSome = true) :
    ∃ d, m'.document? s.indices.rooms message.roomId = some d := by
  cases hroom : m.document? s.indices.rooms message.roomId with
  | none =>
    -- The entry for the room is never displaced itself: it is put last.
    rw [hroom, Option.isSome_none] at hindexed
    subst hindexed
    obtain ⟨name, hentry⟩ := get?_messageBatch_of_name message hname
    exact ⟨_, (Memory.document?_indexDocuments_of_ok hwrite hentry _).trans (if_pos rfl)⟩
  | some d =>
    rw [hroom, Option.isSome_some] at hindexed
    subst hindexed
    by_cases hnames : s.indices.rooms = s.indices.messages
    · -- The document stays, unless the message has the id of its room.
      have hkept : ¬ Displaces s.indices room true := by
        rintro ⟨-, -, hindexed⟩
        cases hindexed
      have hentry := get?_messageBatch_of_not_displaces message hkept
      have hafter := Memory.document?_indexDocuments_of_ok hwrite hentry message.roomId
      rw [← hnames, hroom] at hafter
      rw [hafter]
      split
      · exact ⟨_, rfl⟩
      · exact ⟨d, rfl⟩
    · -- Nothing is sent to the rooms index.
      have hafter := Memory.documents_indexDocuments m (messageBatch s message room true)
        s.indices.rooms
      rw [hwrite, get?_messageBatch_rooms hnames, if_pos rfl] at hafter
      rw [Memory.document?, hafter]
      exact ⟨d, hroom⟩

end Accepted

/-! ## What is reported as applied -/

/-- The exchanges of a message that is reported as applied: four questions, and a bulk request that
was accepted. -/
theorem Handling.exchanges_of_applied {roomId eventId sender body : String} {es : List Exchange}
    {ls : List LogRecord}
    (h : Handling s (.messageSent roomId eventId sender body) es ls (.ok .applied)) :
    ∃ displayName indexed room,
      es =
        [⟨.read (.displayName roomId sender), .ok displayName⟩,
         ⟨.engine (.documentExists s.indices.rooms roomId), .ok indexed⟩,
         ⟨.read (.isRedacted eventId), .ok false⟩,
         ⟨.read (.roomDetail roomId), .ok room⟩,
         ⟨.engine (.indexDocuments
            (messageBatch s ⟨eventId, roomId, body, sender, displayName⟩ room indexed)),
          .ok ()⟩] := by
  generalize hr : (.ok .applied : Except CallError SyncOutcome) = r at h
  cases h with
  | written _ _ _ _ displayName indexed room answer hclear =>
    -- Of all ways to handle a message only this one comes to writing, and it reports its answer.
    cases answer with
    | error e => cases hr
    | ok value => exact ⟨displayName, indexed, room, rfl⟩
  | _ => cases hr

/-- Where such a message was handled in a world, its bulk request is the only one that changed
anything. -/
theorem indexDocuments_of_applied {w : World} {roomId eventId sender body : String}
    (h : ((apply s (.messageSent roomId eventId sender body)).run.run World.handler w).value =
      .ok .applied) :
    let run := (apply s (.messageSent roomId eventId sender body)).run.run World.handler w
    ∃ displayName room batch,
      w.tables.answer (.displayName roomId sender) = .ok displayName ∧
      w.tables.answer (.roomDetail roomId) = .ok room ∧
      batch = messageBatch s ⟨eventId, roomId, body, sender, displayName⟩ room
        (w.memory.document? s.indices.rooms roomId).isSome ∧
      run.calls = [.read (.displayName roomId sender),
        .engine (.documentExists s.indices.rooms roomId), .read (.isRedacted eventId),
        .read (.roomDetail roomId), .engine (.indexDocuments batch)] ∧
      w.memory.indexDocuments batch = (.ok (), run.state.memory) := by
  intro run
  let course := (apply s (.messageSent roomId eventId sender body)).run
  have hends : course.Ends (course.exchanges World.handler w) run.logs (.ok .applied) :=
    h ▸ Course.ends_exchanges World.handler course w
  obtain ⟨displayName, indexed, room, hes⟩ := (handling_of_ends_apply hends).exchanges_of_applied
  have hcalls : run.calls = (course.exchanges World.handler w).map (·.1) :=
    Course.calls_run World.handler course w
  have hanswer : ∀ (c : ReadCall) (value : c.Value),
      (⟨.read c, .ok value⟩ : Exchange) ∈ course.exchanges World.handler w →
      w.tables.answer c = .ok value := fun _ _ => World.answer_of_mem_exchanges course w
  have hsteps : w.memory.Steps (course.exchanges World.handler w) run.state.memory :=
    World.steps_exchanges course w
  rw [hes] at hcalls hanswer hsteps
  simp only [Memory.steps_cons, Memory.steps_nil] at hsteps
  obtain ⟨m₁, hdisplayName, m₂, hexists, m₃, hredacted, m₄, hroom, m₅, hwrite, hlast⟩ := hsteps
  -- The state before the bulk request is the one at the beginning.
  obtain ⟨hindexed, hsame⟩ := Prod.mk.inj hexists.of_ok
  have hbefore : m₄ = w.memory := by
    rw [hroom.of_read, hredacted.of_read, ← hsame, hdisplayName.of_read]
  have hindexed : indexed = (w.memory.document? s.indices.rooms roomId).isSome := by
    rw [← Except.ok.inj hindexed, hdisplayName.of_read]
  subst hindexed
  refine ⟨displayName, room, _, hanswer _ _ (by simp), hanswer _ _ (by simp), rfl, hcalls, ?_⟩
  rw [hbefore] at hwrite
  rw [hlast]
  exact hwrite.of_ok

end Sync

/-! ## The configuration -/

namespace Config

/-- The indices are named by two variables, each of which has a default.  Nothing else is asked
of the names. -/
theorem indices_of_ofLookup {lookup : String → Option String} {config : Config}
    (h : ofLookup lookup = .ok config) : config.indices = indexNames (nonBlank lookup) :=
  (ofSettings_eq_ok_iff.1 h).indices

end Config

/-! ## Applied and indexed -/

/-- A message that is reported as applied made one bulk request.  Afterwards it is in the messages
index unless, in that request, the entry for its room took the place of the entry for the message;
then it is in the index only if it was there before.  The room is in its index if it has a name. -/
theorem applied_message_indexed_iff {lookup : String → Option String} {config : Config}
    (hconfig : Config.ofLookup lookup = .ok config) {w : World}
    {roomId eventId sender body : String}
    (happlied : ((Service.apply config (.messageSent roomId eventId sender body)).run.run
      World.handler w).value = .ok .applied) :
    let rooms := (Config.nonBlank lookup "SEARCH_ROOMS_INDEX").getD "rooms"
    let messages := (Config.nonBlank lookup "SEARCH_MESSAGES_INDEX").getD "messages"
    let run := (Service.apply config (.messageSent roomId eventId sender body)).run.run
      World.handler w
    let after := run.state.memory
    ∃ displayName room batch,
      w.tables.answer (.displayName roomId sender) = .ok displayName ∧
      w.tables.answer (.roomDetail roomId) = .ok room ∧
      run.calls = [.read (.displayName roomId sender), .engine (.documentExists rooms roomId),
        .read (.isRedacted eventId), .read (.roomDetail roomId),
        .engine (.indexDocuments batch)] ∧
      let message : MessageDocument := ⟨eventId, roomId, body, sender, displayName⟩
      let named := (room.name.filter isName).isSome = true
      let displaced := rooms = messages ∧ named ∧ w.memory.document? rooms roomId = none
      (message.entry ∈ (batch.get? messages).getD [] ↔ ¬displaced) ∧
      (after.document? messages eventId = some message.toDocument ↔
        ¬displaced ∨ w.memory.document? messages eventId = some message.toDocument) ∧
      (named → ∃ d, after.document? rooms roomId = some d) := by
  intro rooms messages run after
  have hnames : (Service.syncSettings config).indices =
      Config.indexNames (Config.nonBlank lookup) := Config.indices_of_ofLookup hconfig
  have hrooms : (Service.syncSettings config).indices.rooms = rooms := by rw [hnames]; rfl
  have hmessages : (Service.syncSettings config).indices.messages = messages := by rw [hnames]; rfl
  obtain ⟨displayName, room, batch, hdisplayName, hroom, rfl, hcalls, hwrite⟩ :=
    Sync.indexDocuments_of_applied happlied
  let message : MessageDocument := ⟨eventId, roomId, body, sender, displayName⟩
  have hmem := Sync.mem_get?_messageBatch_iff (Service.syncSettings config) message room
    (w.memory.document? (Service.syncSettings config).indices.rooms roomId).isSome
  have hstored := Sync.document?_message_iff_of_accepted hwrite rfl
  have hlisted := Sync.exists_document?_room_of_accepted hwrite rfl
  -- The names in these are those of the settings; they are the ones that the variables give.
  rw [Sync.displaces_isSome_iff, hrooms, hmessages] at hmem hstored
  rw [hrooms] at hcalls hlisted
  exact ⟨displayName, room, _, hdisplayName, hroom, hcalls, hmem, hstored, hlisted⟩

/-! ### One index for both kinds of documents -/

namespace SharedIndex

/-- The least that has to be configured. -/
def required : String → Option String
  | "DATABASE_URL" => some "postgres://localhost/chat"
  | "SEARCH_ENGINE_URL" => some "http://localhost:9200"
  | _ => none

/-- The same, and one index for rooms and messages. -/
def shared : String → Option String
  | "SEARCH_ROOMS_INDEX" | "SEARCH_MESSAGES_INDEX" => some "chat"
  | key => required key

/-- The settings that come of these, with the names of the two indices. -/
def settings (rooms messages : String) : Config :=
  { databaseUrl := "postgres://localhost/chat"
    databaseMaxConnections := 10
    port := 8080
    engine := ⟨"http://localhost:9200", none, none, false⟩
    indices := ⟨rooms, messages, "mails"⟩
    bootstrapOnStartup := true
    backfillBatchSize := 500
    displayNameScope := .everywhere
    adminToken := none
    events := none }

/-- The first message of a room with a name. -/
def sent : Change :=
  .messageSent "!r" "$1" "@ann" "see you at six"

end SharedIndex

/-- The theorem at a configuration with two names. -/
theorem applied_message_indexed_iff_oneMessage :
    let message : MessageDocument := ⟨"$1", "!r", "see you at six", "@ann", none⟩
    let after := ((Service.apply (SharedIndex.settings "rooms" "messages") SharedIndex.sent).run.run
      World.handler .oneMessage).state.memory
    after.document? "messages" "$1" = some message.toDocument ∧
      ∃ d, after.document? "rooms" "!r" = some d := by
  intro message after
  -- The configuration is read, and the message handled, by evaluation.
  have hconfig : Config.ofLookup SharedIndex.required =
      .ok (SharedIndex.settings "rooms" "messages") := by
    decide +kernel
  have happlied : ((Service.apply (SharedIndex.settings "rooms" "messages")
      SharedIndex.sent).run.run World.handler .oneMessage).value = .ok .applied := by
    decide +kernel
  obtain ⟨displayName, room, batch, hdisplayName, hroom, -, -, hstored, hlisted⟩ :=
    applied_message_indexed_iff hconfig happlied
  cases hdisplayName
  cases hroom
  -- Two names, so nothing takes the place of anything.
  refine ⟨hstored.2 (.inl fun hdisplaced => ?_), hlisted rfl⟩
  exact absurd hdisplaced.1 (by decide)

/-- With one index for both, the first message of a named room is reported as applied, and is not
in the index. -/
theorem applied_message_lost :
    let config := SharedIndex.settings "chat" "chat"
    let run := (Service.apply config SharedIndex.sent).run.run World.handler .oneMessage
    Config.ofLookup SharedIndex.shared = .ok config ∧ run.value = .ok .applied ∧
      run.state.memory.document? "chat" "$1" = none ∧
      run.state.memory.document? "chat" "!r" =
        some (RoomDocument.toDocument ⟨"!r", "plans"⟩) := by
  decide +kernel

end ChatIndex
