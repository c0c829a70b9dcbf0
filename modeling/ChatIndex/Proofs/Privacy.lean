import ChatIndex.Proofs.Requests

/-!
# Encrypted rooms stay out of the indices

A document is unrelated to a room if it is neither the room's own nor that of a message of the
room.  As long as the read model reports the room as encrypted, every document that an event or a
restore writes is unrelated to it: two handlers and the restores look at the read model before
they write, and the others change neither an id nor a `room_id`.  The encryption of a room
removes whatever is related to it, so from then on nothing related to it is ever found.

* `request_of_ends_serve`     a run makes the requests of events and restores, and no others
* `keeps_of_ends_serve`       what is written is unrelated to an encrypted room
* `encrypted_room_stays_out`  no run brings a document of an encrypted room back
-/

namespace ChatIndex

/-! ## Documents of a room -/

/-- Whether a document is neither that of a room nor that of a message of the room. -/
def Unrelated (names : IndexNames) (roomId index id : String) (d : Document) : Prop :=
  (index = names.rooms → id ≠ roomId) ∧
    (index = names.messages → d.get? "room_id" ≠ some (.string roomId))

/-- No document of a room is left, and none of its messages. -/
def Memory.Omits (m : Memory) (names : IndexNames) (roomId : String) : Prop :=
  m.document? names.rooms roomId = none ∧
    ∀ id d, m.document? names.messages id = some d → d.get? "room_id" ≠ some (.string roomId)

/-- A memory omits a room just if all its documents are unrelated to the room. -/
theorem Memory.omits_iff_all {m : Memory} {names : IndexNames} {roomId : String} :
    m.Omits names roomId ↔ m.All (Unrelated names roomId) := by
  constructor
  · rintro ⟨hroom, hmessages⟩ i id d hd
    refine ⟨?_, ?_⟩
    · rintro rfl rfl
      rw [hroom] at hd
      exact nomatch hd
    · rintro rfl
      exact hmessages id d hd
  · intro h
    refine ⟨?_, fun id d hd => (h names.messages id d hd).2 rfl⟩
    cases hd : m.document? names.rooms roomId with
    | none => rfl
    | some d => exact absurd rfl ((h names.rooms roomId d hd).1 rfl)

/-- As far as these exchanges show, the read model reports a room as encrypted, and its snapshots
of the clear rooms omit it. -/
structure ReportsEncrypted (roomId : String) (es : List Exchange) : Prop where
  detail : ∀ room, (⟨.read (.roomDetail roomId), .ok room⟩ : Exchange) ∈ es →
    RoomDetail.isClear room = false
  names : ∀ rooms : List RoomName, (⟨.read .clearRoomNames, .ok rooms⟩ : Exchange) ∈ es →
    ∀ room ∈ rooms, room.roomId ≠ roomId
  messages : ∀ ms : List RoomMessage, (⟨.read .clearRoomMessages, .ok ms⟩ : Exchange) ∈ es →
    ∀ message ∈ ms, message.roomId ≠ roomId

theorem ReportsEncrypted.mono {roomId : String} {es fs : List Exchange}
    (h : ReportsEncrypted roomId es) (hsub : ∀ e ∈ fs, e ∈ es) : ReportsEncrypted roomId fs where
  detail room hroom := h.detail room (hsub _ hroom)
  names rooms hrooms := h.names rooms (hsub _ hrooms)
  messages ms hms := h.messages ms (hsub _ hms)

/-- In a world whose tables list no clear room of an id, the read model reports that room as
encrypted. -/
theorem World.reportsEncrypted_exchanges {α : Type} {R : String} (p : Program α) (w : World)
    (hrooms : ∀ room ∈ w.tables.rooms, room.roomId = R → room.isClear = false) :
    ReportsEncrypted R (p.exchanges World.handler w) where
  -- The one row under this id is that of a room which the tables have as encrypted.
  detail room hmem := by
    have hanswer : w.tables.roomDetail R = .ok room := World.answer_of_mem_exchanges p w hmem
    unfold Tables.roomDetail at hanswer
    split at hanswer
    · exact nomatch hanswer
    · next hfilter =>
      cases hanswer
      obtain ⟨hroom, hid⟩ := List.mem_filter.1 (hfilter ▸ List.mem_singleton_self room)
      exact hrooms room hroom (of_decide_eq_true hid)
    · exact nomatch hanswer
  names rooms hmem room hroom hid := by
    cases World.answer_of_mem_exchanges p w hmem
    obtain ⟨row, hrow, hname⟩ := List.mem_filterMap.1 hroom
    split at hname
    · next hclear =>
      obtain ⟨name, -, rfl⟩ := Option.map_eq_some_iff.1 hname
      rw [hrooms row hrow hid] at hclear
      exact nomatch hclear
    · exact nomatch hname
  messages ms hmem m hm hid := by
    cases World.answer_of_mem_exchanges p w hmem
    obtain ⟨row, hrow, rfl⟩ := List.mem_map.1 hm
    -- The snapshot takes a message only where the room table lists its room as clear.
    have hclear : w.tables.isClear row.roomId = true :=
      (Bool.and_eq_true_iff.1 (List.mem_filter.1 hrow).2).1
    unfold Tables.isClear at hclear
    cases hfind : w.tables.rooms.find? (·.roomId = row.roomId) with
    | none => simp [hfind] at hclear
    | some room =>
      have hrow : room.roomId = row.roomId := by simpa using List.find?_some hfind
      have hrow := hrow.trans hid
      rw [hfind, Option.any_some, hrooms room (List.mem_of_find?_eq_some hfind) hrow] at hclear
      exact nomatch hclear

/-! ## What is written -/

variable {s : SyncSettings} {R : String} {seed : Indices}

private theorem unrelated_toDocument_room (hnames : s.indices.rooms ≠ s.indices.messages)
    (room : RoomDocument) (hroom : room.id ≠ R) :
    Unrelated s.indices R s.indices.rooms room.id room.toDocument :=
  ⟨fun _ => hroom, fun h => absurd h hnames⟩

/-- The document of a message of another room is unrelated to the room. -/
private theorem unrelated_toDocument_message (hnames : s.indices.rooms ≠ s.indices.messages)
    (message : MessageDocument) (hroom : message.roomId ≠ R) :
    Unrelated s.indices R s.indices.messages message.id message.toDocument := by
  refine ⟨fun h => absurd h.symm hnames, fun _ h => hroom ?_⟩
  rw [message.get?_toDocument_roomId] at h
  cases h
  rfl

/-- A field other than `room_id` does not relate a document to a room. -/
private theorem Unrelated.insert {names : IndexNames} {i id field : String} {d : Document}
    {value : Json} (h : Unrelated names R i id d) (hfield : field ≠ "room_id") :
    Unrelated names R i id (d.insert field value) := by
  refine ⟨h.1, fun hi => ?_⟩
  rw [KeyMap.get?_insert, if_neg (Ne.symm hfield)]
  exact h.2 hi

/-! ## Runs -/

/-- What the service may be given to do. -/
inductive Task where
  | event (incoming : RoomEvent)
  | restore (batchSize : Nat)

/-- The course of requests of a task. -/
def Task.program (s : SyncSettings) : Task → Program Unit
  | .event incoming => Sync.handle s incoming
  | .restore batchSize => (fun _ => ()) <$> (Bootstrap.run batchSize s.indices).run

/-- Tasks done one after the other, whatever becomes of each. -/
def serve (s : SyncSettings) : List Task → Program Unit
  | [] => pure ()
  | task :: tasks => task.program s >>= fun _ => serve s tasks

/-- The requests that a task can make. -/
theorem Task.request {task : Task} {es : List Exchange} {ls : List LogRecord}
    (h : (task.program s).Ends es ls ()) :
    ∀ call ∈ engineCalls es, Sync.Request s es call ∨ Bootstrap.Request s.indices es call := by
  cases task with
  | event incoming =>
    -- An event that asks for nothing, or is malformed, makes no request.
    obtain ⟨rfl, -⟩ | ⟨c, r, ls', -, hhandling, -⟩ := Sync.handling_of_ends_handle h
    · exact fun call hcall => absurd hcall List.not_mem_nil
    · exact fun call hcall => .inl (hhandling.request call hcall)
  | restore batchSize =>
    obtain ⟨r, hrun, -⟩ := Course.ends_map.1 h
    exact fun call hcall => .inr ((Bootstrap.restoring_of_ends hrun).request call hcall)

/-- A run makes no other requests either. -/
theorem request_of_ends_serve {tasks : List Task} {es : List Exchange} {ls : List LogRecord}
    (h : (serve s tasks).Ends es ls ()) :
    ∀ call ∈ engineCalls es, Sync.Request s es call ∨ Bootstrap.Request s.indices es call := by
  induction tasks generalizing es ls with
  | nil =>
    obtain ⟨rfl, -, -⟩ := Course.ends_done.1 h
    exact fun call hcall => absurd hcall List.not_mem_nil
  | cons task tasks ih =>
    obtain ⟨_, es₁, es₂, ls₁, ls₂, htask, htasks, rfl, rfl⟩ := Course.ends_bind.1 h
    have hfirst : ∀ e ∈ es₁, e ∈ es₁ ++ es₂ := fun _ => List.mem_append_left _
    have hrest : ∀ e ∈ es₂, e ∈ es₁ ++ es₂ := fun _ => List.mem_append_right _
    rw [engineCalls_append, List.forall_mem_append]
    constructor
    · exact fun call hcall => (Task.request htask call hcall).imp (·.mono hfirst) (·.mono hfirst)
    · exact fun call hcall => (ih htasks call hcall).imp (·.mono hrest) (·.mono hrest)

/-- A run writes nothing that is related to an encrypted room. -/
theorem keeps_of_ends_serve {tasks : List Task} {es : List Exchange} {ls : List LogRecord}
    (h : (serve s tasks).Ends es ls ()) (hnames : s.indices.rooms ≠ s.indices.messages)
    (hseed : seed.All (Unrelated s.indices R)) (hR : ReportsEncrypted R es) :
    ∀ call ∈ engineCalls es, call.Keeps (Unrelated s.indices R) seed := by
  -- A request that is made for a clear room is made for another one.
  have hother : ∀ roomId room, (⟨.read (.roomDetail roomId), .ok room⟩ : Exchange) ∈ es →
      RoomDetail.isClear room = true → roomId ≠ R := by
    rintro roomId room hmem hclear rfl
    rw [hR.detail room hmem] at hclear
    exact nomatch hclear
  intro call hcall
  obtain hrequest | hrequest := request_of_ends_serve h call hcall
  · refine hrequest.keeps (fun roomId name room hroom hclear => ?_)
      (fun message room _ hroom hclear => ?_) fun id d field text hfield hd => ?_
    · exact unrelated_toDocument_room hnames ⟨roomId, name⟩ (hother roomId room hroom hclear)
    · exact unrelated_toDocument_message hnames message
        (hother message.roomId room hroom hclear)
    · exact hd.insert (by obtain rfl | rfl := hfield <;> decide)
  · refine hrequest.keeps hseed (fun rooms hrooms b hb => ?_) fun messages hmessages b hb => ?_
    · obtain ⟨room, hroom, rfl⟩ := List.mem_map.1 hb
      exact unrelated_toDocument_room hnames ⟨room.roomId, room.name⟩
        (hR.names rooms hrooms room hroom)
    · obtain ⟨message, hmessage, rfl⟩ := List.mem_map.1 hb
      exact unrelated_toDocument_message hnames
        ⟨message.eventId, message.roomId, message.content, message.sender, message.displayName⟩
        (hR.messages messages hmessages message hmessage)

/-! ## The encryption of a room -/

/-- Carrying out the encryption of a room leaves none of its documents. -/
theorem Sync.Handling.omits_of_encrypted {algorithm : String} {es : List Exchange}
    {ls : List LogRecord} {m m' : Memory}
    (h : Handling s (.roomEncrypted R algorithm) es ls (.ok .applied)) (hsteps : m.Steps es m') :
    m'.Omits s.indices R := by
  cases h with
  | encrypted roomId algorithm outcome =>
    rw [Memory.steps_cons] at hsteps
    obtain ⟨m₁, hroom, hsteps⟩ := hsteps
    rw [Memory.steps_cons] at hsteps
    obtain ⟨m₂, hmessages, hsteps⟩ := hsteps
    rw [Memory.steps_nil] at hsteps
    have hm₁ : m₁ = m.deleteDocument s.indices.rooms R :=
      (congrArg Prod.snd hroom.of_ok).symm
    have hm₂ : m₂ = (m₁.deleteDocuments s.indices.messages (.field "room_id" R)).2 :=
      (congrArg Prod.snd hmessages.of_ok).symm
    rw [hsteps, hm₂]
    refine ⟨?_, fun id d hd => Memory.get?_ne_of_deleteDocuments hd⟩
    -- The second request only removes, so the room's own document stays away.
    have hgone : m₁.document? s.indices.rooms R = none := by
      rw [hm₁, Memory.document?_deleteDocument, if_pos ⟨rfl, rfl⟩]
    rw [Memory.document?_deleteDocuments]
    split
    · next hi => rw [← hi, hgone]; rfl
    · exact hgone

/-- An event whose encryption was carried out leaves no document of its room. -/
private theorem omits_of_handled {event : RoomEvent} {algorithm : String}
    {es : List Exchange} {ls : List LogRecord} {m m' : Memory}
    (htype : event.type = "m.room.encryption")
    (halgorithm : event.content.getString? "algorithm" = some algorithm)
    (hhandled : (Sync.handle s event).Ends es ls ())
    (happlied :
      Sync.outcomeRecord event (.roomEncrypted event.roomId algorithm) (.ok .applied) ∈ ls)
    (hsteps : m.Steps es m') : m'.Omits s.indices event.roomId := by
  have hchange : event.change? = .ok (some (.roomEncrypted event.roomId algorithm)) := by
    simp [RoomEvent.change?, htype, halgorithm]
  obtain ⟨ls', hhandling⟩ := Sync.handling_of_applied hchange hhandled happlied
  exact Sync.Handling.omits_of_encrypted hhandling hsteps

/-- Once the encryption of a room was carried out, and as long as the read model reports the room
as encrypted, no events and no restores ever bring a document of the room back: none of them is
there in any later state. -/
theorem encrypted_room_stays_out {event : RoomEvent} {algorithm : String}
    {es₀ es rest : List Exchange} {ls₀ ls : List LogRecord} {tasks : List Task}
    {m₀ m₁ m₂ : Memory} (hnames : s.indices.rooms ≠ s.indices.messages)
    (hseed : m₀.preseed.All (Unrelated s.indices event.roomId))
    (htype : event.type = "m.room.encryption")
    (halgorithm : event.content.getString? "algorithm" = some algorithm)
    (hhandled : (Sync.handle s event).Ends es₀ ls₀ ())
    (happlied :
      Sync.outcomeRecord event (.roomEncrypted event.roomId algorithm) (.ok .applied) ∈ ls₀)
    (hsteps₀ : m₀.Steps es₀ m₁)
    (hserve : (serve s tasks).Ends (es ++ rest) ls ())
    (hreports : ReportsEncrypted event.roomId (es ++ rest)) (hsteps : m₁.Steps es m₂) :
    m₂.Omits s.indices event.roomId := by
  -- The invariant is that every document is unrelated to the room.
  have homits := omits_of_handled htype halgorithm hhandled happlied hsteps₀
  rw [Memory.omits_iff_all] at homits ⊢
  rw [← hsteps₀.preseed_eq] at hseed
  have hkeeps := keeps_of_ends_serve hserve hnames hseed hreports
  rw [engineCalls_append, List.forall_mem_append] at hkeeps
  exact hsteps.all homits hkeeps.1

/-- A room that had a name and a message when it was encrypted, before anything of it was
removed. -/
def World.justEncrypted : World :=
  let room : RoomDetail :=
    { (default : RoomDetail) with
      roomId := "!r", name := some "plans", encryption := some "m.megolm.v1.aes-sha2" }
  let message : MessageDocument := ⟨"$1", "!r", "see you at six", "@ann", none⟩
  { World.empty with
    tables := { Tables.empty with
      rooms := [room], messages := [⟨"$1", "!r", "see you at six", "@ann"⟩] }
    memory :=
      (Memory.empty.setDocuments "rooms"
        (KeyMap.empty.insert "!r" (RoomDocument.toDocument ⟨"!r", "plans"⟩))).setDocuments
      "messages" (KeyMap.empty.insert "$1" message.toDocument) }

/-- The event that encrypts the room. -/
def RoomEvent.encryptingRoom : RoomEvent :=
  { (default : RoomEvent) with
    type := "m.room.encryption", roomId := "!r"
    content := .ofMembers [("algorithm", .string "m.megolm.v1.aes-sha2")] }

/-- A message in the encrypted room that is plain text all the same. -/
def RoomEvent.plainMessage : RoomEvent :=
  { (default : RoomEvent) with
    type := "m.room.message", roomId := "!r", sender := "@ann", eventId := some "$2"
    content := .ofMembers [("body", .string "make it seven")] }

/-- A plain message that comes after the encryption and a restore after that bring nothing of the
room back. -/
theorem encrypted_room_stays_out_of_world :
    let w := ((Sync.handle .plain .encryptingRoom).run World.handler .justEncrypted).state
    ((serve .plain [.event .plainMessage, .restore 10]).run World.handler w).state.memory.Omits
      SyncSettings.plain.indices RoomEvent.encryptingRoom.roomId := by
  intro w
  have htype : RoomEvent.encryptingRoom.type = "m.room.encryption" := rfl
  have halgorithm :
      RoomEvent.encryptingRoom.content.getString? "algorithm" = some "m.megolm.v1.aes-sha2" := rfl
  have hhandled :=
    Course.ends_exchanges_unit World.handler (Sync.handle .plain .encryptingRoom) .justEncrypted
  have hsteps₀ := World.steps_exchanges (Sync.handle .plain .encryptingRoom) .justEncrypted
  have hserve :=
    Course.ends_exchanges_unit World.handler (serve .plain [.event .plainMessage, .restore 10]) w
  have hsteps := World.steps_exchanges (serve .plain [.event .plainMessage, .restore 10]) w
  rw [← List.append_nil (Course.exchanges ..)] at hserve
  refine encrypted_room_stays_out (by decide) ?_ htype halgorithm hhandled ?_ hsteps₀ hserve ?_
    hsteps
  · intro i ds id d hds
    exact nomatch hds
  · decide
  · rw [List.append_nil]
    exact World.reportsEncrypted_exchanges _ _ (by decide)

end ChatIndex
