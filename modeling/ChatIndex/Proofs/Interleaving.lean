import ChatIndex.Proofs.Privacy

/-!
# A restore beside live events

A restore reads a snapshot once and writes it in batches, while events are handled beside it.
Nothing is locked, so the removal of what an event forbids may come in between: what was read
before the read model took note of the event may be written after the removal, and stays.  This is
the only way in which such a document can be left over: it was put there by a request of the
restore that came after the removal, and unless the index held it as soon as it was created, it is
a row of a snapshot from before the read model took note.

* `leftOver_of_steps`                 the argument for one removal, whatever it removes
* `left_over_of_interleaved`          an encrypted room and a redacted message beside a restore
* `stale_snapshot_outlives_removals`  a message that is left over
-/

namespace ChatIndex

/-! ## Interleavings -/

/-- What is going on beside a restore. -/
inductive Incident where
  | encryption
  | redaction
deriving DecidableEq

/-- A beat of a restore with events beside it. -/
inductive Beat where
  /-- An exchange of the restore. -/
  | restore (e : Exchange)
  /-- The read model takes note of an incident. -/
  | noted (i : Incident)
  /-- An exchange in which the event of an incident is handled. -/
  | handle (i : Incident) (e : Exchange)

namespace Beat

/-- The exchange of a beat, if there is one. -/
def exchange? : Beat → Option Exchange
  | .restore e | .handle _ e => some e
  | .noted _ => none

/-- The exchange of a beat of the restore. -/
def restore? : Beat → Option Exchange
  | .restore e => some e
  | .handle .. | .noted _ => none

/-- The exchange of a beat in which the event of an incident is handled. -/
def handle? (i : Incident) : Beat → Option Exchange
  | .handle j e => if j = i then some e else none
  | .restore _ | .noted _ => none

/-- Whether the read model takes note of an incident. -/
def notes (i : Incident) : Beat → Bool
  | .noted j => j = i
  | .restore _ | .handle .. => false

theorem restore?_eq_some_iff {b : Beat} {e : Exchange} : b.restore? = some e ↔ b = .restore e := by
  cases b <;> simp [restore?]

theorem handle?_eq_some_iff {i : Incident} {b : Beat} {e : Exchange} :
    b.handle? i = some e ↔ b = .handle i e := by
  cases b <;> simp [handle?]

end Beat

/-- The beats before the read model takes note of an incident. -/
def beforeNoted (i : Incident) (beats : List Beat) : List Beat :=
  beats.takeWhile fun b => !b.notes i

/-- The beats from when the read model takes note of an incident. -/
def sinceNoted (i : Incident) (beats : List Beat) : List Beat :=
  beats.dropWhile fun b => !b.notes i

/-- A restore beside the encryption of the room `R` and the redaction of the event `E`.  The read
model takes note of each of the two before its event is handled, and its snapshots honour it from
then on. -/
structure Interleaved (s : SyncSettings) (batchSize : Nat) (R E : String) (beats : List Beat) :
    Prop where
  restore : ∃ ls r,
    (Bootstrap.run batchSize s.indices).run.Ends (beats.filterMap Beat.restore?) ls r
  encryption : ∃ event algorithm ls, event.change? = .ok (some (.roomEncrypted R algorithm)) ∧
    (Sync.handle s event).Ends (beats.filterMap (Beat.handle? .encryption)) ls ()
  redaction : ∃ event roomId ls, event.change? = .ok (some (.messageRedacted roomId E)) ∧
    (Sync.handle s event).Ends (beats.filterMap (Beat.handle? .redaction)) ls ()
  noted : ∀ i e, .handle i e ∉ beforeNoted i beats
  rooms : ∀ rooms : List RoomName,
    .restore ⟨.read .clearRoomNames, .ok rooms⟩ ∈ sinceNoted .encryption beats →
      ∀ room ∈ rooms, room.roomId ≠ R
  messages : ∀ messages : List RoomMessage,
    .restore ⟨.read .clearRoomMessages, .ok messages⟩ ∈ sinceNoted .encryption beats →
      ∀ message ∈ messages, message.roomId ≠ R
  current : ∀ messages : List RoomMessage,
    .restore ⟨.read .clearRoomMessages, .ok messages⟩ ∈ sinceNoted .redaction beats →
      ∀ message ∈ messages, message.eventId ≠ E
  /-- The two events meet no faults. -/
  faultless : ∀ i e, .handle i e ∈ beats → Exchange.Succeeded e

/-! ## What can be left over -/

/-- Whether the restore makes a request after another one was made for an incident. -/
def SentAfter (beats : List Beat) (i : Incident) (removal c : EngineCall) : Prop :=
  ∃ before after answer outcome, beats = before ++ .restore ⟨.engine c, answer⟩ :: after ∧
    .handle i ⟨.engine removal, outcome⟩ ∈ before

/-- Whether a document was put into an index by the restore after the removal for an incident: it
came with the index, or it is a row of a snapshot from before the read model took note. -/
inductive LeftOver (names : IndexNames) (seed : Indices) (beats : List Beat) (i : Incident)
    (removal : EngineCall) : String → String → Document → Prop
  | created {index : String} {mapping : Json} {ds : Index} {id : String} {d : Document}
      (hsent : SentAfter beats i removal (.createIndex index mapping))
      (hds : seed.get? index = some ds) (hd : ds.get? id = some d) :
      LeftOver names seed beats i removal index id d
  | room {rooms : List RoomName} {room : RoomName} {batch : List BulkDocument}
      (hread : .restore ⟨.read .clearRoomNames, .ok rooms⟩ ∈ beforeNoted i beats)
      (hroom : room ∈ rooms) (hbatch : Bootstrap.roomEntry room ∈ batch)
      (hsent : SentAfter beats i removal (Bootstrap.batchCall names.rooms batch)) :
      LeftOver names seed beats i removal names.rooms room.roomId (Bootstrap.roomEntry room).fields
  | message {messages : List RoomMessage} {message : RoomMessage} {batch : List BulkDocument}
      (hread : .restore ⟨.read .clearRoomMessages, .ok messages⟩ ∈ beforeNoted i beats)
      (hmessage : message ∈ messages) (hbatch : Bootstrap.messageEntry message ∈ batch)
      (hsent : SentAfter beats i removal (Bootstrap.batchCall names.messages batch)) :
      LeftOver names seed beats i removal names.messages message.eventId
        (Bootstrap.messageEntry message).fields

/-- A beat comes before the read model takes note of an incident, or since then. -/
theorem mem_before_or_since {i : Incident} {b : Beat} {beats : List Beat} (h : b ∈ beats) :
    b ∈ beforeNoted i beats ∨ b ∈ sinceNoted i beats := by
  rw [← List.mem_append, beforeNoted, sinceNoted, List.takeWhile_append_dropWhile]
  exact h

/-- Once the documents with a property are removed, those of them that are there in the end are
left over from a snapshot, provided that no snapshot holds any since the read model took note. -/
theorem leftOver_of_steps {s : SyncSettings} {beats : List Beat} {i : Incident}
    {removal : EngineCall} {value : removal.Value} {Q : String → String → Document → Prop}
    {m m' : Memory}
    (hrestore : ∀ c ∈ engineCalls (beats.filterMap Beat.restore?),
      Bootstrap.Request s.indices (beats.filterMap Beat.restore?) c)
    (hhandle : ∀ j c answer, .handle j ⟨.engine c, answer⟩ ∈ beats →
      ∀ P seed, c.Keeps P seed)
    (hremoval : .handle i ⟨.engine removal, .ok value⟩ ∈ beats)
    (hremoved : ∀ (m : Memory) index id d,
      (m.answer removal).2.document? index id = some d → ¬Q index id d)
    (hrooms : ∀ rooms, .restore ⟨.read .clearRoomNames, .ok rooms⟩ ∈ sinceNoted i beats →
      ∀ room ∈ rooms, ¬Q s.indices.rooms room.roomId (Bootstrap.roomEntry room).fields)
    (hmessages : ∀ messages,
      .restore ⟨.read .clearRoomMessages, .ok messages⟩ ∈ sinceNoted i beats →
      ∀ message ∈ messages,
        ¬Q s.indices.messages message.eventId (Bootstrap.messageEntry message).fields)
    (hsteps : m.Steps (beats.filterMap Beat.exchange?) m') :
    m'.All fun index id d =>
      Q index id d → LeftOver s.indices m.preseed beats i removal index id d := by
  -- The invariant holds right after the removal, for then there is nothing with the property.
  obtain ⟨before, after, hbeats⟩ := List.append_of_mem hremoval
  have hsplit : beats.filterMap Beat.exchange? = before.filterMap Beat.exchange? ++
      (⟨.engine removal, .ok value⟩ :: after.filterMap Beat.exchange?) := by
    rw [hbeats, List.filterMap_append]
    rfl
  rw [hsplit] at hsteps
  -- The run is cut at the removal.
  obtain ⟨m₁, hbefore, hsteps⟩ := Memory.steps_append.1 hsteps
  obtain ⟨m₂, hstep, hafter⟩ := Memory.steps_cons.1 hsteps
  have hm₂ : m₂ = (m₁.answer removal).2 := (congrArg Prod.snd hstep.of_ok).symm
  have hseed : m₂.preseed = m.preseed := hstep.preseed_eq.trans hbefore.preseed_eq
  refine hafter.all (fun index id d hd hQ => ?_) fun c hc => ?_
  · rw [hm₂] at hd
    exact absurd hQ (hremoved m₁ index id d hd)
  rw [hseed]
  -- It is kept by each later request, by those of the restore because of what they write.
  obtain ⟨answer, hanswer⟩ := mem_engineCalls_iff.1 hc
  obtain ⟨b, hb, hexchange⟩ := List.mem_filterMap.1 hanswer
  have hmem : b ∈ beats := hbeats ▸ List.mem_append_right _ (List.mem_cons_of_mem _ hb)
  cases b with
  | noted j => cases hexchange
  | handle j e =>
    cases hexchange
    exact hhandle j c answer hmem _ _
  | restore e =>
    cases hexchange
    -- It comes after the removal in the whole list of beats.
    have hsent : SentAfter beats i removal c := by
      obtain ⟨after₁, after₂, hafter⟩ := List.append_of_mem hb
      refine ⟨before ++ .handle i ⟨.engine removal, .ok value⟩ :: after₁, after₂, answer,
        .ok value, ?_, by simp⟩
      rw [hbeats, hafter, List.append_assoc, List.cons_append]
    have hexchange : (⟨.engine c, answer⟩ : Exchange) ∈ beats.filterMap Beat.restore? :=
      List.mem_filterMap.2 ⟨_, hmem, rfl⟩
    have hread : ∀ e, e ∈ beats.filterMap Beat.restore? →
        .restore e ∈ beforeNoted i beats ∨ .restore e ∈ sinceNoted i beats := by
      intro e he
      obtain ⟨b, hb, hbe⟩ := List.mem_filterMap.1 he
      rw [Beat.restore?_eq_some_iff] at hbe
      exact mem_before_or_since (hbe ▸ hb)
    cases hrestore c (mem_engineCalls_iff.2 ⟨answer, hexchange⟩) with
    -- To look an index up writes nothing.
    | lookUp index => exact trivial
    | createRooms | createMessages => exact fun ds hds id d hd _ => .created hsent hds hd
    | writeRooms hrows hbatch =>
      intro e he b hb hQ
      cases List.mem_singleton.1 he
      obtain ⟨room, hroom, rfl⟩ := List.mem_map.1 (hbatch b hb)
      -- The snapshot with the row was read before the read model took note, or since then.
      obtain hread | hread := hread _ hrows
      · exact .room hread hroom hb hsent
      · -- A snapshot that was read later has no such room.
        exact absurd hQ (hrooms _ hread room hroom)
    | writeMessages hrows hbatch =>
      intro e he b hb hQ
      cases List.mem_singleton.1 he
      obtain ⟨message, hmessage, rfl⟩ := List.mem_map.1 (hbatch b hb)
      obtain hread | hread := hread _ hrows
      · exact .message hread hmessage hb hsent
      · exact absurd hQ (hmessages _ hread message hmessage)

/-! ## An encrypted room and a redacted message -/

namespace Interleaved

variable {s : SyncSettings} {batchSize : Nat} {R E : String} {beats : List Beat}

/-- The exchanges of an incident are those of its beats. -/
theorem mem_filterMap_handle?_iff {i : Incident} {e : Exchange} :
    e ∈ beats.filterMap (Beat.handle? i) ↔ .handle i e ∈ beats := by
  rw [List.mem_filterMap]
  simp only [Beat.handle?_eq_some_iff, exists_eq_right]

/-- The exchanges in which the room's encryption is handled. -/
theorem exchanges_encryption (h : Interleaved s batchSize R E beats) :
    ∃ outcome, beats.filterMap (Beat.handle? .encryption) =
      [⟨.engine (.deleteDocument s.indices.rooms R), .ok ()⟩,
       ⟨.engine (Sync.removalCall s R), .ok outcome⟩] := by
  obtain ⟨event, algorithm, ls, hchange, hends⟩ := h.encryption
  have hfaultless : ∀ e ∈ beats.filterMap (Beat.handle? .encryption), e.Succeeded :=
    fun e he => h.faultless .encryption e (mem_filterMap_handle?_iff.1 he)
  -- The cases of the handling are cases on the list of exchanges.
  generalize beats.filterMap (Beat.handle? .encryption) = es at hends hfaultless
  obtain ⟨-, hnone⟩ | ⟨c, r, ls', hc, hhandling, -⟩ := Sync.handling_of_ends_handle hends
  · exact absurd hchange (hnone _)
  · rw [hchange] at hc
    cases hc
    cases hhandling with
    -- The event meets no faults, so it gets to its end.
    | roomKept roomId algorithm e =>
      exact absurd (hfaultless _ List.mem_cons_self) (Exchange.not_succeeded_error _ e)
    | messagesKept roomId algorithm e =>
      exact absurd (hfaultless _ (List.mem_cons_of_mem _ List.mem_cons_self))
        (Exchange.not_succeeded_error _ e)
    | encrypted roomId algorithm outcome => exact ⟨outcome, rfl⟩

/-- The exchange in which the redaction is handled. -/
theorem exchanges_redaction (h : Interleaved s batchSize R E beats) :
    beats.filterMap (Beat.handle? .redaction) =
      [⟨.engine (.deleteDocument s.indices.messages E), .ok ()⟩] := by
  obtain ⟨event, roomId, ls, hchange, hends⟩ := h.redaction
  have hfaultless : ∀ e ∈ beats.filterMap (Beat.handle? .redaction), e.Succeeded :=
    fun e he => h.faultless .redaction e (mem_filterMap_handle?_iff.1 he)
  generalize beats.filterMap (Beat.handle? .redaction) = es at hends hfaultless
  obtain ⟨-, hnone⟩ | ⟨c, r, ls', hc, hhandling, -⟩ := Sync.handling_of_ends_handle hends
  · exact absurd hchange (hnone _)
  · rw [hchange] at hc
    cases hc
    -- A redaction is one removal by id, and without faults it is answered.
    cases hhandling with
    | removed roomId eventId answer =>
      obtain ⟨value, hvalue⟩ := hfaultless _ List.mem_cons_self
      have hvalue : answer = .ok () := hvalue
      rw [hvalue]

/-- The two events make no request but removals, so what they ask for keeps any property. -/
theorem keeps_handle (h : Interleaved s batchSize R E beats) {i : Incident} {c : EngineCall}
    {answer : Except EngineError c.Value} (hmem : .handle i ⟨.engine c, answer⟩ ∈ beats)
    (P : String → String → Document → Prop) (seed : Indices) : c.Keeps P seed := by
  rw [← mem_filterMap_handle?_iff] at hmem
  cases i with
  | encryption =>
    -- The encryption removes the room and then its messages.
    obtain ⟨outcome, hexchanges⟩ := h.exchanges_encryption
    rw [hexchanges] at hmem
    obtain hmem | hmem := List.mem_cons.1 hmem
    · cases hmem
      exact trivial
    · cases List.mem_singleton.1 hmem
      exact trivial
  | redaction =>
    rw [h.exchanges_redaction] at hmem
    cases List.mem_singleton.1 hmem
    exact trivial

end Interleaved

/-- When a restore and the handling of a room's encryption and of a message's redaction have come
to their ends, in whatever way they took turns, a document of the room or of the message is there
only if it is left over: the restore put it there after the removal, and it came with the index or
with a snapshot from before the read model took note. -/
theorem left_over_of_interleaved {s : SyncSettings} {batchSize : Nat} {R E : String}
    {beats : List Beat} {m m' : Memory} (hnames : s.indices.rooms ≠ s.indices.messages)
    (h : Interleaved s batchSize R E beats)
    (hsteps : m.Steps (beats.filterMap Beat.exchange?) m') :
    (∀ d, m'.document? s.indices.rooms R = some d →
      LeftOver s.indices m.preseed beats .encryption (.deleteDocument s.indices.rooms R)
        s.indices.rooms R d) ∧
    (∀ id d, m'.document? s.indices.messages id = some d →
      d.get? "room_id" = some (.string R) →
      LeftOver s.indices m.preseed beats .encryption (Sync.removalCall s R)
        s.indices.messages id d) ∧
    (∀ d, m'.document? s.indices.messages E = some d →
      LeftOver s.indices m.preseed beats .redaction (.deleteDocument s.indices.messages E)
        s.indices.messages E d) := by
  obtain ⟨ls, r, hends⟩ := h.restore
  have hrestore := (Bootstrap.restoring_of_ends hends).request
  have hhandle : ∀ j c answer, .handle j ⟨.engine c, answer⟩ ∈ beats →
      ∀ P seed, c.Keeps P seed := fun j c answer hmem => h.keeps_handle hmem
  obtain ⟨outcome, hencryption⟩ := h.exchanges_encryption
  have hroom :
      .handle .encryption ⟨.engine (.deleteDocument s.indices.rooms R), .ok ()⟩ ∈ beats := by
    rw [← Interleaved.mem_filterMap_handle?_iff, hencryption]
    exact List.mem_cons_self
  have hmessages : .handle .encryption ⟨.engine (Sync.removalCall s R), .ok outcome⟩ ∈ beats := by
    rw [← Interleaved.mem_filterMap_handle?_iff, hencryption]
    exact List.mem_cons_of_mem _ List.mem_cons_self
  have hmessage :
      .handle .redaction ⟨.engine (.deleteDocument s.indices.messages E), .ok ()⟩ ∈ beats := by
    rw [← Interleaved.mem_filterMap_handle?_iff, h.exchanges_redaction]
    exact List.mem_cons_self
  refine ⟨fun d hd => ?_, fun id d hd hfield => ?_, fun d hd => ?_⟩
  · -- The document of the room.
    let Q (index id : String) (_ : Document) : Prop := index = s.indices.rooms ∧ id = R
    refine leftOver_of_steps (Q := Q) hrestore hhandle hroom ?_ ?_ ?_ hsteps _ _ d hd ⟨rfl, rfl⟩
    · exact fun m index id d hd => Memory.ne_of_deleteDocument hd
    · exact fun rooms hread room hroom hQ => h.rooms rooms hread room hroom hQ.2
    · exact fun messages hread message hmessage hQ => hnames hQ.1.symm
  · -- The messages of the room, told by their field.
    let Q (index : String) (_ : String) (d : Document) : Prop :=
      index = s.indices.messages ∧ d.get? "room_id" = some (.string R)
    refine leftOver_of_steps (Q := Q) hrestore hhandle hmessages ?_ ?_ ?_ hsteps _ id d hd
      ⟨rfl, hfield⟩
    · rintro m index id d hd ⟨rfl, hfield⟩
      exact Memory.get?_ne_of_deleteDocuments hd hfield
    · exact fun rooms hread room hroom hQ => hnames hQ.1
    · rintro messages hread message hmessage ⟨-, hfield⟩
      have hroomId : (Bootstrap.messageEntry message).fields.get? "room_id" =
          some (.string message.roomId) := by
        simp [Bootstrap.messageEntry, MessageDocument.toDocument, KeyMap.get?_ofList]
      rw [hroomId] at hfield
      cases hfield
      exact h.messages messages hread message hmessage rfl
  · -- The redacted message.
    let Q (index id : String) (_ : Document) : Prop := index = s.indices.messages ∧ id = E
    refine leftOver_of_steps (Q := Q) hrestore hhandle hmessage ?_ ?_ ?_ hsteps _ _ d hd ⟨rfl, rfl⟩
    · exact fun m index id d hd => Memory.ne_of_deleteDocument hd
    · exact fun rooms hread room hroom hQ => hnames hQ.1
    · exact fun messages hread message hmessage hQ => h.current messages hread message hmessage hQ.2

/-! ## A snapshot that is written too late -/

/-- Makes these requests, whatever is answered. -/
def Program.script : List Call → Program Unit
  | [] => .done ()
  | c :: cs => .call c fun _ => script cs

/-- The message as the snapshot has it. -/
def RoomMessage.sixOClock : RoomMessage :=
  ⟨"$1", "!r", "see you at six", "@ann", none⟩

/-- The event that redacts the message. -/
def RoomEvent.redactingMessage : RoomEvent :=
  { (default : RoomEvent) with
    type := "m.room.redaction", roomId := "!r", redacts := some "$1" }

open Bootstrap in
/-- The requests of a restore that has read the messages when the room is encrypted and the
message redacted, and writes the messages when both events are handled. -/
def staleScript : Program Unit :=
  .script
    [.engine (.indexExists "rooms"), .engine (.createIndex "rooms" roomsMapping),
     .read .clearRoomNames, .engine (batchCall "rooms" [roomEntry ⟨"!r", "plans"⟩]),
     .engine (.indexExists "messages"), .engine (.createIndex "messages" messagesMapping),
     .read .clearRoomMessages,
     .engine (.deleteDocument "rooms" "!r"), .engine (Sync.removalCall .plain "!r"),
     .engine (.deleteDocument "messages" "$1"),
     .engine (batchCall "messages" [messageEntry .sixOClock])]

/-- Those requests with their answers. -/
def staleExchanges : List Exchange :=
  staleScript.exchanges World.handler .oneMessage

/-- The same exchanges with those that make them, and with what the read model takes note of. -/
def staleBeats : List Beat :=
  (staleExchanges.take 7).map .restore ++
    .noted .encryption :: ((staleExchanges.drop 7).take 2).map (.handle .encryption) ++
    .noted .redaction :: ((staleExchanges.drop 9).take 1).map (.handle .redaction) ++
    (staleExchanges.drop 10).map .restore

/-- No snapshot is read among these beats, as their requests show. -/
private theorem not_mem_of_calls {beats : List Beat} {c : ReadCall}
    {answer : Except StoreError c.Value}
    (h : .read c ∉ (beats.filterMap Beat.restore?).map Sigma.fst) :
    .restore ⟨.read c, answer⟩ ∉ beats :=
  fun hmem => h (List.mem_map.2 ⟨_, List.mem_filterMap.2 ⟨_, hmem, rfl⟩, rfl⟩)

/-- The sample beats are a restore with both incidents beside it. -/
theorem interleaved_staleBeats : Interleaved .plain 10 "!r" "$1" staleBeats where
  restore := by
    have hfollow : ((Bootstrap.run 10 SyncSettings.plain.indices).run.follow?
        (staleBeats.filterMap Beat.restore?)).isSome := by
      decide +kernel
    obtain ⟨r, hr⟩ := Option.isSome_iff_exists.1 hfollow
    obtain ⟨ls, hends⟩ := Course.follow?_eq_some_iff.1 hr
    exact ⟨ls, r, hends⟩
  encryption := by
    have hfollow : (Sync.handle .plain .encryptingRoom).follow?
        (staleBeats.filterMap (Beat.handle? .encryption)) = some () := by
      decide +kernel
    obtain ⟨ls, hends⟩ := Course.follow?_eq_some_iff.1 hfollow
    exact ⟨.encryptingRoom, "m.megolm.v1.aes-sha2", ls, rfl, hends⟩
  redaction := by
    have hfollow : (Sync.handle .plain .redactingMessage).follow?
        (staleBeats.filterMap (Beat.handle? .redaction)) = some () := by
      decide +kernel
    obtain ⟨ls, hends⟩ := Course.follow?_eq_some_iff.1 hfollow
    exact ⟨.redactingMessage, "!r", ls, rfl, hends⟩
  noted i e hmem := by
    -- Before the read model takes note nothing is handled.
    have hnone : (beforeNoted i staleBeats).filterMap (Beat.handle? i) = [] := by
      cases i <;> rfl
    have hhandled := Interleaved.mem_filterMap_handle?_iff.2 hmem
    rw [hnone] at hhandled
    exact absurd hhandled List.not_mem_nil
  rooms rooms hmem := absurd hmem (not_mem_of_calls (by decide))
  messages messages hmem := absurd hmem (not_mem_of_calls (by decide))
  current messages hmem := absurd hmem (not_mem_of_calls (by decide))
  faultless i e hmem := by
    rw [← Interleaved.mem_filterMap_handle?_iff] at hmem
    cases i with
    | encryption =>
      obtain rfl | hmem := List.mem_cons.1 hmem
      · exact ⟨(), rfl⟩
      · cases List.mem_singleton.1 hmem
        exact ⟨_, rfl⟩
    | redaction =>
      cases List.mem_singleton.1 hmem
      exact ⟨(), rfl⟩

/-- The engine before and after these exchanges. -/
private theorem steps_staleBeats :
    ∃ m', Memory.empty.Steps (staleBeats.filterMap Beat.exchange?) m' ∧
    m'.document? "messages" "$1" = some (Bootstrap.messageEntry .sixOClock).fields := by
  have hexchanges : staleBeats.filterMap Beat.exchange? = staleExchanges := rfl
  rw [hexchanges]
  exact ⟨_, World.steps_exchanges staleScript .oneMessage, by decide +kernel⟩

/-- The theorem at the sample beats: the message is left over from the stale snapshot. -/
theorem left_over_of_interleaved_staleBeats :
    LeftOver SyncSettings.plain.indices .empty staleBeats .redaction
      (.deleteDocument "messages" "$1") "messages" "$1"
      (Bootstrap.messageEntry .sixOClock).fields := by
  obtain ⟨m', hsteps, hdocument⟩ := steps_staleBeats
  exact (left_over_of_interleaved (by decide) interleaved_staleBeats hsteps).2.2 _ hdocument

/-- A restore beside live events is not safe as such: a message of an encrypted room, redacted
itself, is in the index after all three have come to their ends. -/
theorem stale_snapshot_outlives_removals :
    Interleaved .plain 10 "!r" "$1" staleBeats ∧
      ∃ m', Memory.empty.Steps (staleBeats.filterMap Beat.exchange?) m' ∧
        ∃ d, m'.document? "messages" "$1" = some d ∧ d.get? "room_id" = some (.string "!r") := by
  obtain ⟨m', hsteps, hdocument⟩ := steps_staleBeats
  exact ⟨interleaved_staleBeats, m', hsteps, _, hdocument, by decide +kernel⟩

end ChatIndex
