import ChatIndex.Proofs.Agreement
import ChatIndex.Proofs.CurrentMessages

/-!
# Edits that have nothing but a fallback

An event that replaces a message carries the new text in `m.new_content`; beside it there is a
body for readers that know nothing of edits.  Such an event is never to be a document of its own.
Where the new content is missing, the event is taken for a message with that fallback as its text,
and this is the only way in which a replacement gets into the index: while events are handled, and
in a backfill as well.

* `change?_eq_sent_iff`               which events send a message
* `exists_document_iff_of_deliveries` a message is indexed at some time just if it is written
* `mem_ids_foldl_step_iff`            a history has the messages that it sends, and no others
* `replacement_becomes_document_iff`  which replacements become documents
-/

namespace ChatIndex

/-! ## Replacements -/

namespace RoomEvent

/-- Whether an event is a message that says that it replaces another one. -/
def Replaces (event : RoomEvent) : Prop :=
  event.type = "m.room.message" ∧
    (event.content.get? "m.relates_to").bind (·.getString? "rel_type") = some "m.replace"

/-- Whether an event of an id has no new content, but a body of its own. -/
def FallbackOnly (event : RoomEvent) (id body : String) : Prop :=
  event.eventId = some id ∧ event.content.get? "m.new_content" = none ∧
    event.content.getString? "body" = some body

instance (event : RoomEvent) : Decidable event.Replaces :=
  inferInstanceAs (Decidable (_ ∧ _))

instance (event : RoomEvent) (id body : String) : Decidable (event.FallbackOnly id body) :=
  inferInstanceAs (Decidable (_ ∧ _ ∧ _))

/-- Whether an event asks for a message of an id to be written. -/
def Sends (event : RoomEvent) (id : String) : Prop :=
  ∃ roomId sender body, event.change? = .ok (some (.messageSent roomId id sender body))

variable {event : RoomEvent} {roomId id sender body : String}

private theorem map_some_eq_ok_iff {asked : Except Malformed Change} {c : Change} :
    asked.map some = .ok (some c) ↔ asked = .ok c := by
  cases asked <;> simp [Except.map]

/-- An edit never asks for a message to be written. -/
private theorem editChange_ne_sent :
    event.editChange ≠ .ok (.messageSent roomId id sender body) := by
  unfold editChange
  dsimp only
  split <;> simp

/-- Nor does the change of a member's name. -/
private theorem memberChange?_ne_sent :
    event.memberChange? ≠ some (.messageSent roomId id sender body) := by
  unfold memberChange?
  dsimp only
  split
  · split <;> simp
  · simp

/-- Nor does a redaction. -/
private theorem redactionChange_ne_sent :
    event.redactionChange ≠ .ok (.messageSent roomId id sender body) := by
  unfold redactionChange
  split
  · split <;> simp
  · simp

/-- A message is sent by a message event that is no edit and has an id and a body. -/
theorem change?_eq_sent_iff :
    event.change? = .ok (some (.messageSent roomId id sender body)) ↔
      event.type = "m.room.message" ∧ event.isEdit = false ∧ event.eventId = some id ∧
        event.content.getString? "body" = some body ∧ roomId = event.roomId ∧
        sender = event.sender := by
  constructor
  · intro h
    unfold RoomEvent.change? at h
    -- One case for each type of event; only a message that is no edit is left.
    split_ifs at h with hname hencryption htype hedit hredaction hmember
    · simp at h
    · simp at h
    · exact absurd (map_some_eq_ok_iff.1 h) editChange_ne_sent
    · -- A message without an id or a body asks for nothing.
      unfold messageChange? at h
      split at h <;> simp at h
      next body' id' hbody hid =>
        obtain ⟨rfl, rfl, rfl, rfl⟩ := h
        exact ⟨htype, by simpa using hedit, hid, hbody, rfl, rfl⟩
    · exact absurd (map_some_eq_ok_iff.1 h) redactionChange_ne_sent
    · exact absurd (by simpa using h) memberChange?_ne_sent
    · simp at h
  · rintro ⟨htype, hedit, hid, hbody, rfl, rfl⟩
    simp [RoomEvent.change?, htype, hedit, messageChange?, hbody, hid]

/-- A replacement is an edit just if it has new content, of whatever form. -/
theorem Replaces.isEdit_eq_false_iff (h : event.Replaces) :
    event.isEdit = false ↔ event.content.get? "m.new_content" = none := by
  simp [isEdit, h.2]

/-- A replacement is taken for a message just if it has nothing but a fallback. -/
theorem Replaces.sends_iff (h : event.Replaces) :
    event.Sends id ↔ ∃ body, event.FallbackOnly id body := by
  constructor
  · rintro ⟨roomId, sender, body, hchange⟩
    obtain ⟨-, hedit, hid, hbody, -, -⟩ := change?_eq_sent_iff.1 hchange
    exact ⟨body, hid, h.isEdit_eq_false_iff.1 hedit, hbody⟩
  · rintro ⟨body, hid, hnew, hbody⟩
    have hedit := h.isEdit_eq_false_iff.2 hnew
    exact ⟨_, _, body, change?_eq_sent_iff.2 ⟨h.1, hedit, hid, hbody, rfl, rfl⟩⟩

end RoomEvent

/-! ## While events are handled -/

section Deliveries

variable {s : SyncSettings} {reads : Answers} {refused : List String} {m : Memory} {id : String}

/-- Whether a change is to write the message of an id, and the read model and the engine let it be
written. -/
def Change.Writes (reads : Answers) (refused : List String) (id : String) (c : Change) : Prop :=
  ∃ roomId sender body, c = .messageSent roomId id sender body ∧
    (reads.message? roomId id sender body).isSome ∧ refused.contains id = false

/-- Whether a delivery writes the message of an id. -/
def Delivery.Writes (refused : List String) (id : String) (d : Delivery) : Prop :=
  ∃ c, d.event.change? = .ok (some c) ∧ c.Writes d.reads refused id

/-- A delivery writes a message just if its event is a message that is no edit, and it may be
written. -/
theorem Delivery.writes_iff {d : Delivery} :
    d.Writes refused id ↔ d.event.type = "m.room.message" ∧ d.event.isEdit = false ∧
      d.event.eventId = some id ∧ ∃ body, d.event.content.getString? "body" = some body ∧
        (d.reads.message? d.event.roomId id d.event.sender body).isSome ∧
        refused.contains id = false := by
  constructor
  · rintro ⟨c, hchange, roomId, sender, body, rfl, hwritable⟩
    obtain ⟨htype, hedit, hid, hbody, rfl, rfl⟩ := RoomEvent.change?_eq_sent_iff.1 hchange
    exact ⟨htype, hedit, hid, body, hbody, hwritable⟩
  · rintro ⟨htype, hedit, hid, body, hbody, hwritable⟩
    have hchange := RoomEvent.change?_eq_sent_iff.2 ⟨htype, hedit, hid, hbody, rfl, rfl⟩
    exact ⟨_, hchange, _, _, body, rfl, hwritable⟩

/-- A message writes its own id only. -/
theorem Change.writes_sent_iff {roomId eventId sender body : String} :
    (Change.messageSent roomId eventId sender body).Writes reads refused id ↔
      (reads.message? roomId eventId sender body).isSome ∧
        id = eventId ∧ refused.contains eventId = false := by
  constructor
  · rintro ⟨roomId', sender', body', heq, hsome, hrefused⟩
    cases heq
    exact ⟨hsome, rfl, hrefused⟩
  · rintro ⟨hsome, rfl, hrefused⟩
    exact ⟨roomId, sender, body, rfl, hsome, hrefused⟩

/-- Of all changes only that of a message puts a document where there was none. -/
theorem Change.act_messageEffect_none_iff (c : Change) :
    (c.messageEffect s reads refused id).act none = none ↔ ¬ c.Writes reads refused id := by
  cases c with
  | messageSent roomId eventId sender body =>
    rw [Change.messageEffect, writes_sent_iff]
    cases hmessage : reads.message? roomId eventId sender body with
    | none =>
      refine iff_of_true rfl ?_
      rintro ⟨hsome, -⟩
      cases hsome
    | some message =>
      -- What the read model lets pass may still be for another id, or one that is rejected.
      by_cases hwritten : id = eventId ∧ refused.contains eventId = false
      · refine iff_of_false ?_ (not_not_intro ⟨rfl, hwritten⟩)
        simp only [if_pos hwritten, MessageEffect.act, reduceCtorEq, not_false_eq_true]
      · refine iff_of_true ?_ fun hwrites => hwritten hwrites.2
        simp only [if_neg hwritten, MessageEffect.act]
  -- Setting a field of a document that is not there does nothing.
  | messageEdited roomId target body =>
    rw [Change.messageEffect]
    split <;> simp [MessageEffect.act, Writes]
  | messageRedacted roomId target =>
    rw [Change.messageEffect]
    split <;> simp [MessageEffect.act, Writes]
  | _ => simp [Change.messageEffect, MessageEffect.act, Writes]

/-- Where there is no document, a delivery puts one just if it writes it. -/
theorem document?_deliver_eq_none_iff (hnames : s.indices.rooms ≠ s.indices.messages)
    (hnone : m.document? s.indices.messages id = none) (d : Delivery) :
    (deliver s m d).document? s.indices.messages id = none ↔ ¬ d.Writes m.refused id := by
  rw [document?_deliver_messages hnames, hnone]
  unfold RoomEvent.messageEffect
  split
  · next c hchange =>
    have hwrites : d.Writes m.refused id ↔ c.Writes d.reads m.refused id := by
      simp [Delivery.Writes, hchange]
    rw [hwrites]
    exact c.act_messageEffect_none_iff
  · next hchange =>
    refine iff_of_true rfl ?_
    rintro ⟨c, hc, -⟩
    exact hchange c hc

/-- A message that was not indexed is indexed at some time just if one of the deliveries writes
it. -/
theorem exists_document_iff_of_deliveries (hnames : s.indices.rooms ≠ s.indices.messages)
    (hnone : m.document? s.indices.messages id = none) (ds : List Delivery) :
    (∃ before, before <+: ds ∧
        (before.foldl (deliver s) m).document? s.indices.messages id ≠ none) ↔
      ∃ d ∈ ds, d.Writes m.refused id := by
  -- The induction is on the deliveries up to the first one that writes the message.
  induction ds generalizing m with
  | nil => simp [hnone]
  | cons d ds ih =>
    have hstart : (∃ before, before <+: d :: ds ∧
        (before.foldl (deliver s) m).document? s.indices.messages id ≠ none) ↔
          ∃ before, before <+: ds ∧
            (before.foldl (deliver s) (deliver s m d)).document? s.indices.messages id ≠ none := by
      -- The empty prefix is out, since there is no document at the start.
      simp [List.prefix_cons_iff, hnone]
    rw [hstart]
    by_cases hwrites : d.Writes m.refused id
    · -- It is there after this delivery, whatever becomes of it later.
      have hsome := mt (document?_deliver_eq_none_iff hnames hnone d).1 (not_not_intro hwrites)
      exact iff_of_true ⟨[], List.nil_prefix, hsome⟩ ⟨d, List.mem_cons_self, hwrites⟩
    · have hstill := (document?_deliver_eq_none_iff hnames hnone d).2 hwrites
      -- It is still not there, so one of the later deliveries has to write it.
      rw [ih hstill, refused_deliver]
      simp [hwrites]

end Deliveries

/-! ## In a backfill -/

section Histories

variable {names : List MemberName} {h : History} {id : String}

/-- A change sends the message of an id just if it is that message. -/
theorem Change.sends_eq_true_iff {c : Change} :
    c.sends id = true ↔ ∃ roomId sender body, c = .messageSent roomId id sender body := by
  cases c <;> simp [sends, eq_comm]

/-- One more change adds the message that it sends, and an edit adds none. -/
theorem History.mem_ids_step_iff (c : Change) :
    id ∈ (h.step names c).ids ↔ id ∈ h.ids ∨ c.sends id = true := by
  cases c with
  | messageSent roomId eventId sender body =>
    rw [ids_step_sent, List.mem_append, List.mem_singleton]
    simp [Change.sends, eq_comm]
  | messageEdited roomId target body =>
    rw [ids_step_edited]
    simp [Change.sends]
  | _ => simp [History.step, Change.sends]

/-- A history has the messages that it sends, and no others. -/
theorem History.mem_ids_foldl_step_iff (changes : List Change) :
    id ∈ (changes.foldl (step names) h).ids ↔
      id ∈ h.ids ∨ ∃ c ∈ changes, c.sends id = true := by
  induction changes generalizing h with
  | nil => simp
  | cons c changes ih => rw [List.foldl_cons, ih, mem_ids_step_iff]; simp [or_assoc]

/-- A stored message sends no message but the one of its own id. -/
theorem StoredMessage.eventId_of_sends {row : StoredMessage} {event : RoomEvent}
    (hevent : row.event? = some event) (hsends : event.Sends id) : row.eventId = id := by
  obtain ⟨-, -, heventId⟩ := StoredMessage.fields_of_event? hevent
  obtain ⟨roomId, sender, body, hchange⟩ := hsends
  obtain ⟨-, -, hid, -⟩ := RoomEvent.change?_eq_sent_iff.1 hchange
  exact Option.some.inj (heventId.symm.trans hid)

/-- What is read of a stored message sends a message just if its event does. -/
theorem StoredMessage.exists_sends_iff {row : StoredMessage} :
    (∃ c ∈ row.change?, c.sends id = true) ↔ ∃ event ∈ row.event?, event.Sends id := by
  unfold StoredMessage.change?
  cases row.event? with
  | none => simp
  | some event =>
    have hsends : event.Sends id ↔
        ∃ c, event.change? = .ok (some c) ∧ c.sends id = true := by
      simp [RoomEvent.Sends, Change.sends_eq_true_iff]
    simp only [Option.map_some, Option.mem_some_iff, exists_eq_left', hsends]
    cases event.change? with
    | error e => simp
    | ok asked => simp

/-- A message is among the current ones of what is stored just if a row sends it. -/
theorem exists_currentMessage_iff (rows : List StoredMessage) :
    (∃ message ∈ History.currentMessages (rows.filterMap StoredMessage.change?) names,
        message.eventId = id) ↔
      ∃ row ∈ rows, ∃ event ∈ row.event?, event.Sends id := by
  have hids : (∃ message ∈ History.currentMessages (rows.filterMap StoredMessage.change?) names,
      message.eventId = id) ↔ id ∈ ((rows.filterMap StoredMessage.change?).foldl
        (History.step names) .empty).ids := by
    simp [History.ids, History.currentMessages]
  have hempty : id ∉ History.empty.ids := List.not_mem_nil
  -- The current messages are those that the history sends.
  rw [hids, History.mem_ids_foldl_step_iff, or_iff_right hempty]
  constructor
  · rintro ⟨c, hc, hsends⟩
    obtain ⟨row, hrow, hc⟩ := List.mem_filterMap.1 hc
    exact ⟨row, hrow, StoredMessage.exists_sends_iff.1 ⟨c, hc, hsends⟩⟩
  · rintro ⟨row, hrow, hevent⟩
    obtain ⟨c, hc, hsends⟩ := StoredMessage.exists_sends_iff.2 hevent
    exact ⟨c, List.mem_filterMap.2 ⟨row, hrow, hc⟩, hsends⟩

end Histories

/-! ## Which replacements become documents -/

/-- A replacement is taken for a message just if it has nothing but a fallback.  Therefore an id
that only replacements have is indexed, while events are handled and in a backfill, just if one of
them is such a replacement, and none that has new content is. -/
theorem replacement_becomes_document_iff {s : SyncSettings}
    (hnames : s.indices.rooms ≠ s.indices.messages) (id : String) :
    (∀ event : RoomEvent, event.Replaces →
      (event.Sends id ↔ ∃ body, event.FallbackOnly id body)) ∧
    (∀ (m : Memory) (ds : List Delivery), m.document? s.indices.messages id = none →
      (∀ d ∈ ds, d.event.type = "m.room.message" → d.event.eventId = some id →
        d.event.Replaces) →
      ((∃ before, before <+: ds ∧
          (before.foldl (deliver s) m).document? s.indices.messages id ≠ none) ↔
        ∃ d ∈ ds, d.event.Replaces ∧ ∃ body, d.event.FallbackOnly id body ∧
          (d.reads.message? d.event.roomId id d.event.sender body).isSome ∧
          m.refused.contains id = false)) ∧
    ∀ (rows : List StoredMessage) (names : List MemberName),
      (∀ row ∈ rows, row.eventId = id → ∀ event ∈ row.event?, event.Replaces) →
      ((∃ message ∈ History.currentMessages (rows.filterMap StoredMessage.change?) names,
          message.eventId = id) ↔
        ∃ row ∈ rows, ∃ event ∈ row.event?, event.Replaces ∧
          ∃ body, event.FallbackOnly id body) := by
  refine ⟨fun event hreplaces => hreplaces.sends_iff, ?_, ?_⟩
  · -- What writes under the id is a message event of it, so a replacement, and no edit.
    intro m ds hnone hreplaces
    rw [exists_document_iff_of_deliveries hnames hnone]
    constructor
    · rintro ⟨d, hd, hwrites⟩
      obtain ⟨htype, hedit, heventId, body, hbody, hwritable⟩ := Delivery.writes_iff.1 hwrites
      have hd' := hreplaces d hd htype heventId
      have hnew := hd'.isEdit_eq_false_iff.1 hedit
      exact ⟨d, hd, hd', body, ⟨heventId, hnew, hbody⟩, hwritable⟩
    · rintro ⟨d, hd, hd', body, ⟨heventId, hnew, hbody⟩, hwritable⟩
      have hedit := hd'.isEdit_eq_false_iff.2 hnew
      exact ⟨d, hd, Delivery.writes_iff.2 ⟨hd'.1, hedit, heventId, body, hbody, hwritable⟩⟩
  · -- What sends the id is the row of it.
    intro rows names hreplaces
    rw [exists_currentMessage_iff]
    constructor
    · rintro ⟨row, hrow, event, hevent, hsends⟩
      have hid := StoredMessage.eventId_of_sends hevent hsends
      have hevent' := hreplaces row hrow hid event hevent
      exact ⟨row, hrow, event, hevent, hevent', hevent'.sends_iff.1 hsends⟩
    · rintro ⟨row, hrow, event, hevent, hevent', hfallback⟩
      exact ⟨row, hrow, event, hevent, hevent'.sends_iff.2 hfallback⟩

/-- A replacement of `$1` that has nothing but a fallback. -/
def RoomEvent.fallbackOnly : RoomEvent :=
  sampleMessage "$2" "@ann" <| .ofMembers
    [("body", .string "* see you at seven"),
     ("m.relates_to",
      .ofMembers [("rel_type", .string "m.replace"), ("event_id", .string "$1")])]

/-- The same replacement as it is stored. -/
def StoredMessage.fallbackOnly : StoredMessage :=
  ⟨"$2", "!r",
    "\x7b\"sender\":\"@ann\",\"content\":\x7b\"body\":\"* see you at seven\"," ++
      "\"m.relates_to\":\x7b\"rel_type\":\"m.replace\",\"event_id\":\"$1\"\x7d\x7d\x7d"⟩

theorem RoomEvent.replaces_fallbackOnly :
    RoomEvent.fallbackOnly.Replaces ∧
      RoomEvent.fallbackOnly.FallbackOnly "$2" "* see you at seven" := by
  decide +kernel

theorem StoredMessage.event?_fallbackOnly :
    StoredMessage.fallbackOnly.event? = some RoomEvent.fallbackOnly := by
  decide +kernel

/-- The theorem at the sample event, on both ways into the index. -/
theorem replacement_becomes_document_iff_fallbackOnly :
    RoomEvent.fallbackOnly.Sends "$2" ∧
      (∃ before, before <+: [⟨RoomEvent.fallbackOnly, .clear []⟩] ∧
        (before.foldl (deliver .plain) .empty).document? "messages" "$2" ≠ none) ∧
      ∃ message ∈ History.currentMessages
        ([StoredMessage.fallbackOnly].filterMap StoredMessage.change?) [],
        message.eventId = "$2" := by
  have hnames : SyncSettings.plain.indices.rooms ≠ SyncSettings.plain.indices.messages := by decide
  obtain ⟨hsends, hlive, hstored⟩ := replacement_becomes_document_iff hnames "$2"
  obtain ⟨hreplaces, hfallback⟩ := RoomEvent.replaces_fallbackOnly
  refine ⟨(hsends _ hreplaces).2 ⟨_, hfallback⟩, ?_, ?_⟩
  · -- While events are handled: one delivery, which the read model lets pass.
    refine (hlive .empty [⟨.fallbackOnly, .clear []⟩] rfl ?_).2 ?_
    · intro d hd _ _
      cases List.mem_singleton.1 hd
      exact hreplaces
    · exact ⟨_, List.mem_cons_self, hreplaces, _, hfallback, by decide +kernel⟩
  · -- In a backfill: one row.
    refine (hstored [.fallbackOnly] [] ?_).2 ?_
    · intro row hrow _ event hevent
      cases List.mem_singleton.1 hrow
      cases StoredMessage.event?_fallbackOnly.symm.trans hevent
      exact hreplaces
    · exact ⟨_, List.mem_cons_self, _, StoredMessage.event?_fallbackOnly, hreplaces, _, hfallback⟩

/-- The fallback of an edit is indexed as a message of its own, beside the message that was
edited, and it is one of the current messages of what is stored. -/
theorem fallback_of_edit_indexed :
    RoomEvent.fallbackOnly.Replaces ∧
      RoomEvent.fallbackOnly.change? =
        .ok (some (.messageSent "!r" "$2" "@ann" "* see you at seven")) ∧
      (deliver .plain .empty ⟨.fallbackOnly, .clear []⟩).document? "messages" "$2" =
        some (MessageDocument.toDocument
          ⟨"$2", "!r", "* see you at seven", "@ann", some "Ann"⟩) ∧
      History.currentMessages ([StoredMessage.fallbackOnly].filterMap StoredMessage.change?) [] =
        [⟨"$2", "!r", "* see you at seven", "@ann", none⟩] := by
  decide +kernel

end ChatIndex
