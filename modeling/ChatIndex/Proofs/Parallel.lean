import ChatIndex.Proofs.EncryptedEvents
import ChatIndex.Proofs.Redelivery

/-!
# Rooms can be processed in parallel

The events of one room must be handled in their order, those of different rooms need not be, as
long as no event names a message of another room and a new display name counts in its room only.
A room's document is touched by the events of that room alone.  A message's document is touched
only by events of the room in whose events its id occurs: each of them writes that room into the
document, so the two requests that go by a query pass over it in all others.

So what becomes of a document depends on the events of one room, and every interleaving has those
in the same order.

* `Change.act_messageEffect_of_ne`      a change of another room leaves a message alone
* `Change.ownedBy_act_messageEffect`    a change of the same room leaves the message to it
* `document?_rooms_of_interleaves`      what becomes of a room, whatever happens in other rooms
* `document?_messages_of_interleaves`   what becomes of a message
* `interleavings_converge`              all interleavings end in the same indices
-/

namespace ChatIndex

/-! ## Folds that pass over elements -/

/-- Elements that do nothing can be left out of a fold.  That they do nothing may depend on an
invariant, which the others must keep. -/
theorem foldl_filter_of_idle {σ α : Type} {act : σ → α → σ} {P : σ → Prop} {p : α → Bool}
    {xs : List α} (hkept : ∀ x ∈ xs, p x = true → ∀ a, P a → P (act a x))
    (hidle : ∀ x ∈ xs, p x = false → ∀ a, P a → act a x = a) {a : σ} (ha : P a) :
    (xs.filter p).foldl act a = xs.foldl act a := by
  induction xs generalizing a with
  | nil => rfl
  | cons x xs ih =>
    obtain ⟨hkept, hkept'⟩ := List.forall_mem_cons.1 hkept
    obtain ⟨hidle, hidle'⟩ := List.forall_mem_cons.1 hidle
    -- An element that is left out leaves the state, so the invariant still holds there.
    cases hx : p x with
    | true =>
      rw [List.filter_cons_of_pos hx]
      exact ih hkept' hidle' (hkept hx a ha)
    | false =>
      have hnot : ¬ p x = true := by rw [hx]; decide
      rw [List.filter_cons_of_neg hnot, List.foldl_cons, hidle hx a ha]
      exact ih hkept' hidle' ha

/-! ## The message that an event names -/

/-- The message whose document a change writes, edits or removes by its id. -/
def Change.messageId? : Change → Option String
  | .messageSent _ id _ _ | .messageEdited _ id _ | .messageRedacted _ id => some id
  | .roomNameChanged .. | .roomEncrypted .. | .displayNameChanged .. => none

/-- The message that an event names: the one that was sent, edited or redacted. -/
def RoomEvent.messageId? (event : RoomEvent) : Option String :=
  match event.change? with
  | .ok (some c) => c.messageId?
  | _ => none

/-! ## Changes of other rooms -/

/-- A change of another room leaves the document of a room alone. -/
theorem Change.roomEffect_of_ne {reads : Answers} {refused : List String} {c : Change}
    {id : String} (h : c.roomId ≠ id) : c.roomEffect reads refused id = .keep := by
  have hne : id ≠ c.roomId := Ne.symm h
  cases c with
  | roomNameChanged roomId name => exact if_neg fun hid => hne hid.1
  | roomEncrypted roomId algorithm => exact if_neg hne
  | messageSent roomId eventId sender body => exact if_neg fun hid => hne hid.1
  | messageEdited | messageRedacted | displayNameChanged => rfl

/-- Whether a message, if its document is there, is one of a room. -/
def OwnedBy (roomId : String) (d : Option Document) : Prop :=
  ∀ document ∈ d, document.get? "room_id" = some (.string roomId)

variable {s : SyncSettings} {reads : Answers} {refused : List String}

/-- A change of another room that does not name a message leaves the message alone. -/
theorem Change.act_messageEffect_of_ne {c : Change} {roomId id : String} {d : Option Document}
    (hscope : s.displayNameScope = .room) (hroom : c.roomId ≠ roomId)
    (hid : c.messageId? ≠ some id) (hd : OwnedBy roomId d) :
    (c.messageEffect s reads refused id).act d = d := by
  cases c with
  | roomNameChanged roomId' name => rfl
  | roomEncrypted roomId' algorithm =>
    -- The removal asks for the documents of the other room.
    cases d with
    | none => rfl
    | some document =>
      have hmatch : (DocumentQuery.field "room_id" roomId').isMatch document = false :=
        DocumentQuery.isMatch_eq_false_of_room List.mem_cons_self (hd document rfl) hroom
      simp [Change.messageEffect, MessageEffect.act, hmatch]
  | messageSent roomId' eventId sender body =>
    -- What is written, if anything is, has another id.
    have hne : ¬(id = eventId ∧ refused.contains eventId = false) := by
      rintro ⟨rfl, -⟩
      exact hid rfl
    unfold Change.messageEffect
    dsimp only
    split
    · rfl
    · rw [if_neg hne]
      rfl
  | messageEdited roomId' target body =>
    have hne : id ≠ target := fun heq => hid (heq ▸ rfl)
    rw [Change.messageEffect, if_neg hne]
    rfl
  | messageRedacted roomId' target =>
    have hne : id ≠ target := fun heq => hid (heq ▸ rfl)
    rw [Change.messageEffect, if_neg hne]
    rfl
  | displayNameChanged roomId' userId displayName =>
    -- In this scope the query asks for the room as well as for the sender.
    cases d with
    | none => rfl
    | some document =>
      have hquery : ("room_id", roomId') ∈
          (Sync.displayNameQuery s roomId' userId).conditions := by
        rw [Sync.displayNameQuery, hscope]
        exact List.mem_cons_of_mem _ List.mem_cons_self
      have hmatch := DocumentQuery.isMatch_eq_false_of_room hquery (hd document rfl) hroom
      simp [Change.messageEffect, MessageEffect.act, DocumentQuery.set, hmatch]

/-- A field that is set later does not tell the room. -/
private theorem OwnedBy.map_set {roomId field : String} {d : Option Document} {value : Json}
    (hd : OwnedBy roomId d) (hfield : field ∈ changingFields) (query : DocumentQuery) :
    OwnedBy roomId (d.map (query.set field value)) := by
  have hne : "room_id" ≠ field := by
    rintro rfl
    exact absurd hfield (by decide)
  intro document hdocument
  obtain ⟨document, hmem, rfl⟩ := Option.map_eq_some_iff.1 hdocument
  unfold DocumentQuery.set
  split
  · rw [KeyMap.get?_insert, if_neg hne]
    exact hd document hmem
  · exact hd document hmem

/-- A change leaves a message of its own room to that room. -/
theorem Change.ownedBy_act_messageEffect {c : Change} {id : String} {d : Option Document}
    (hd : OwnedBy c.roomId d) : OwnedBy c.roomId ((c.messageEffect s reads refused id).act d) := by
  cases c with
  | roomNameChanged roomId name => exact hd
  | roomEncrypted roomId algorithm =>
    exact fun document hdocument => hd document (Option.eq_some_of_filter_eq_some hdocument)
  | messageSent roomId eventId sender body =>
    unfold Change.messageEffect
    dsimp only
    split
    · exact hd
    · next message hmessage =>
      split
      · -- The one document that is written names the room of the change.
        intro document hdocument
        cases hdocument
        obtain ⟨displayName, room, -, -, -, -, rfl⟩ := Sync.message?_eq_some_iff.1 hmessage
        exact MessageDocument.get?_toDocument_roomId _
      · exact hd
  | messageEdited roomId target body =>
    rw [Change.messageEffect]
    split
    · exact hd.map_set (by decide) _
    · exact hd
  | messageRedacted roomId target =>
    rw [Change.messageEffect]
    split
    · intro document hdocument
      cases hdocument
    · exact hd
  | displayNameChanged roomId userId displayName => exact hd.map_set (by decide) _

/-! ## Events -/

/-- An event of another room leaves the document of a room alone. -/
theorem RoomEvent.roomEffect_of_ne {event : RoomEvent} {id : String} (h : event.roomId ≠ id) :
    event.roomEffect reads refused id = .keep := by
  unfold RoomEvent.roomEffect
  split
  · next c hchange => exact Change.roomEffect_of_ne (RoomEvent.roomId_of_change? hchange ▸ h)
  · rfl

/-- An event of another room that does not name a message leaves the message alone. -/
theorem RoomEvent.act_messageEffect_of_ne {event : RoomEvent} {roomId id : String}
    {d : Option Document} (hscope : s.displayNameScope = .room) (hroom : event.roomId ≠ roomId)
    (hid : event.messageId? ≠ some id) (hd : OwnedBy roomId d) :
    (event.messageEffect s reads refused id).act d = d := by
  unfold RoomEvent.messageEffect
  split
  · next c hchange =>
    rw [RoomEvent.messageId?, hchange] at hid
    rw [← RoomEvent.roomId_of_change? hchange] at hroom
    exact Change.act_messageEffect_of_ne hscope hroom hid hd
  · rfl

/-- An event leaves a message of its own room to that room. -/
theorem RoomEvent.ownedBy_act_messageEffect {event : RoomEvent} {id : String}
    {d : Option Document} (hd : OwnedBy event.roomId d) :
    OwnedBy event.roomId ((event.messageEffect s reads refused id).act d) := by
  unfold RoomEvent.messageEffect
  split
  · next c hchange =>
    rw [← RoomEvent.roomId_of_change? hchange] at hd ⊢
    exact Change.ownedBy_act_messageEffect hd
  · exact hd

/-! ## Interleavings -/

/-- Whether a sequence of events is made of one sequence for each room, each in its own order. -/
def Interleaves (family : String → List RoomEvent) (events : List RoomEvent) : Prop :=
  ∀ roomId, events.filter (fun event => event.roomId = roomId) = family roomId

/-- Every event of an interleaving is one of its room's. -/
theorem Interleaves.mem {family : String → List RoomEvent} {events : List RoomEvent}
    (h : Interleaves family events) {event : RoomEvent} (hevent : event ∈ events) :
    event ∈ family event.roomId := by
  rw [← h event.roomId]
  exact List.mem_filter.2 ⟨hevent, decide_eq_true rfl⟩

variable {family : String → List RoomEvent} {events events' : List RoomEvent} {m : Memory}

/-- What becomes of the document of a room is what its own events make of it. -/
theorem document?_rooms_of_interleaves (hnames : s.indices.rooms ≠ s.indices.messages)
    (h : Interleaves family events) (roomId : String) :
    (deliverAll s reads m events).document? s.indices.rooms roomId =
      (deliverAll s reads m (family roomId)).document? s.indices.rooms roomId := by
  rw [document?_deliverAll_rooms hnames, document?_deliverAll_rooms hnames, ← h roomId]
  refine (foldl_filter_of_idle (P := fun _ => True) (fun _ _ _ _ _ => trivial) ?_ trivial).symm
  intro event _ hother d _
  rw [RoomEvent.roomEffect_of_ne (of_decide_eq_false hother)]
  rfl

/-- What becomes of a message is what the events of the one room that names it make of it. -/
theorem document?_messages_of_interleaves (hnames : s.indices.rooms ≠ s.indices.messages)
    (hscope : s.displayNameScope = .room) (h : Interleaves family events) {roomId id : String}
    (hid : ∀ roomId', ∀ event ∈ family roomId', event.messageId? = some id → roomId' = roomId)
    (howned : OwnedBy roomId (m.document? s.indices.messages id)) :
    (deliverAll s reads m events).document? s.indices.messages id =
      (deliverAll s reads m (family roomId)).document? s.indices.messages id := by
  rw [document?_deliverAll_messages hnames, document?_deliverAll_messages hnames, ← h roomId]
  -- The invariant is that the message, if it is there, is one of the room.
  refine (foldl_filter_of_idle (P := OwnedBy roomId) ?_ ?_ howned).symm
  · intro event _ hroom d hd
    rw [← of_decide_eq_true hroom] at hd ⊢
    exact RoomEvent.ownedBy_act_messageEffect hd
  · intro event hevent hroom d hd
    have hroom : event.roomId ≠ roomId := of_decide_eq_false hroom
    exact RoomEvent.act_messageEffect_of_ne hscope hroom
      (fun hmentioned => hroom (hid _ event (h.mem hevent) hmentioned)) hd

/-- If new display names count in their room only and each message is named by the events of one
room, all sequences that have the events of each room in their order leave the same indices of
empty ones. -/
theorem interleavings_converge (hnames : s.indices.rooms ≠ s.indices.messages)
    (hscope : s.displayNameScope = .room)
    (hempty : m.documents s.indices.rooms = .empty ∧ m.documents s.indices.messages = .empty)
    (hmentions : ∀ id roomId roomId', ∀ event ∈ family roomId, ∀ event' ∈ family roomId',
      event.messageId? = some id → event'.messageId? = some id → roomId = roomId')
    (h : Interleaves family events) (h' : Interleaves family events') :
    (deliverAll s reads m events).documents s.indices.rooms =
        (deliverAll s reads m events').documents s.indices.rooms ∧
      (deliverAll s reads m events).documents s.indices.messages =
        (deliverAll s reads m events').documents s.indices.messages := by
  constructor
  · -- Both orders make of a room what its own events make of it.
    refine KeyMap.ext_get? fun roomId => ?_
    exact (document?_rooms_of_interleaves hnames h roomId).trans
      (document?_rooms_of_interleaves hnames h' roomId).symm
  · refine KeyMap.ext_get? fun id => ?_
    have howned : ∀ roomId, OwnedBy roomId (m.document? s.indices.messages id) := by
      intro roomId document hdocument
      rw [Memory.document?, hempty.2] at hdocument
      cases hdocument
    -- A message that nobody names can be taken for one of any room.
    obtain ⟨roomId, hroom⟩ : ∃ roomId, ∀ roomId', ∀ event ∈ family roomId',
        event.messageId? = some id → roomId' = roomId := by
      by_cases hnamed : ∃ roomId, ∃ event ∈ family roomId, event.messageId? = some id
      · obtain ⟨roomId, event, hevent, hid⟩ := hnamed
        exact ⟨roomId, fun roomId' event' hevent' hid' =>
          hmentions id roomId' roomId event' hevent' event hevent hid' hid⟩
      · exact ⟨"", fun roomId event hevent hid => absurd ⟨roomId, event, hevent, hid⟩ hnamed⟩
    exact (document?_messages_of_interleaves hnames hscope h hroom (howned roomId)).trans
      (document?_messages_of_interleaves hnames hscope h' hroom (howned roomId)).symm

/-- Settings under which a new display name counts in its room only. -/
def SyncSettings.byRoom : SyncSettings :=
  { SyncSettings.plain with displayNameScope := .room }

/-- A member's new display name in one room. -/
def RoomEvent.annRenamed : RoomEvent :=
  { (default : RoomEvent) with
    type := "m.room.member", roomId := "!r", sender := "@ann"
    content := .ofMembers [("displayname", .string "Anna")]
    unsigned := some (.ofMembers [("prev_content", .ofMembers [("displayname", .string "Ann")])]) }

/-- A message in another room. -/
def RoomEvent.elsewhere : RoomEvent :=
  { sampleMessage "$3" "@ann" (.ofMembers [("body", .string "all here")]) with roomId := "!s" }

/-- The sample log and a message of another room may be handled in either order. -/
theorem interleavings_converge_editedLog :
    let after := deliverAll .byRoom (.clear []) .empty
    let others := RoomEvent.editedLog ++ [.annRenamed]
    (after (.elsewhere :: others)).documents "rooms" =
        (after (others ++ [.elsewhere])).documents "rooms" ∧
      (after (.elsewhere :: others)).documents "messages" =
        (after (others ++ [.elsewhere])).documents "messages" := by
  intro after others
  let family (roomId : String) : List RoomEvent :=
    (.elsewhere :: others).filter fun event => event.roomId = roomId
  have hmentions : ∀ id roomId roomId', ∀ event ∈ family roomId, ∀ event' ∈ family roomId',
      event.messageId? = some id → event'.messageId? = some id → roomId = roomId' := by
    -- The events are few enough to compare all pairs.
    have hall : ∀ event ∈ RoomEvent.elsewhere :: others, ∀ event' ∈ RoomEvent.elsewhere :: others,
        event.messageId?.isSome → event.messageId? = event'.messageId? →
          event.roomId = event'.roomId := by
      decide
    intro id roomId roomId' event hevent event' hevent' hid hid'
    obtain ⟨hevent, hroom⟩ := List.mem_filter.1 hevent
    obtain ⟨hevent', hroom'⟩ := List.mem_filter.1 hevent'
    rw [← of_decide_eq_true hroom, ← of_decide_eq_true hroom']
    exact hall event hevent event' hevent' (by rw [hid]; rfl) (hid.trans hid'.symm)
  have hlast : Interleaves family (others ++ [.elsewhere]) := by
    intro roomId
    by_cases hroom : RoomEvent.elsewhere.roomId = roomId
    · subst hroom
      decide
    · simp [family, List.filter_append, hroom]
  exact interleavings_converge (s := .byRoom) (by decide) rfl ⟨rfl, rfl⟩ hmentions (fun _ => rfl)
    hlast

-- Where a new display name counts in all rooms, it matters which of the two comes first.
example :
    let after := deliverAll .plain (.clear []) .empty
    let name (events : List RoomEvent) :=
      ((after events).document? "messages" "$3").bind (·.get? "display_name")
    name [.elsewhere, .annRenamed] = some (.string "Anna") ∧
      name [.annRenamed, .elsewhere] = some (.string "Ann") := by
  decide +kernel

end ChatIndex
