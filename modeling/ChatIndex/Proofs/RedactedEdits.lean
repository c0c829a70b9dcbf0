import ChatIndex.Proofs.FallbackEdits

/-!
# Edits that are redacted

An edit puts its text into the document of the message that it names, and leaves no other trace in
the index.  When the edit is redacted, what is removed is the document of the edit's own id, and
there is none: the message keeps the text of the redacted edit.  A backfill leaves redacted rows
out before it folds the others, so there the text of the last edit that stands is back.

* `Change.Spares.holds`       what a change makes of the text of a message that it leaves there
* `holds_foldl_deliver`       the text in the index is that of the last edit delivered
* `contents_currentMessages`  the text in a backfill is that of the last edit stored
* `redacted_edit_stays_iff`   the two texts, and when they are the same
-/

namespace ChatIndex

/-! ## Edits of one message -/

/-- An edit of a message: its own id, and the new text. -/
structure MessageEdit where
  eventId : String
  body : String
deriving DecidableEq, Repr, Inhabited

/-- The text of a message after edits of it. -/
def contentAfter (body : String) (edits : List MessageEdit) : String :=
  (edits.map (·.body)).getLast?.getD body

/-- The text that an event gives to the message of an id. -/
def RoomEvent.rewrite? (id : String) (event : RoomEvent) : Option String :=
  match event.change? with
  | .ok (some c) => c.rewrite? id
  | _ => none

/-- The edit of the message of an id that is stored. -/
def StoredMessage.editOf? (id : String) (row : StoredMessage) : Option MessageEdit :=
  (row.change?.bind (·.rewrite? id)).map fun body => ⟨row.eventId, body⟩

/-! ## While events are handled -/

/-- Whether a change leaves the document of a message where it is: it does not remove the message
or its room, and does not write the message anew. -/
def Change.Spares (roomId id : String) : Change → Prop
  | .roomEncrypted roomId' _ => roomId' ≠ roomId
  | .messageSent _ eventId _ _ => eventId ≠ id
  | .messageRedacted _ target => target ≠ id
  | .roomNameChanged .. | .messageEdited .. | .displayNameChanged .. => True

/-- Whether there is a document of a message of a room, with a text. -/
def Holds (roomId content : String) (d : Option Document) : Prop :=
  ∃ document, d = some document ∧ document.get? "room_id" = some (.string roomId) ∧
    document.get? "content" = some (.string content)

section Deliveries

variable {s : SyncSettings} {reads : Answers} {refused : List String} {m : Memory}
  {roomId id content : String} {d : Option Document}

/-- A new display name is no new text. -/
private theorem Holds.map_set_displayName (hd : Holds roomId content d) (query : DocumentQuery)
    (value : Json) : Holds roomId content (d.map (query.set "display_name" value)) := by
  obtain ⟨document, rfl, hroom, hcontent⟩ := hd
  refine ⟨_, rfl, ?_⟩
  unfold DocumentQuery.set
  split
  · rw [KeyMap.get?_insert, KeyMap.get?_insert]
    exact ⟨hroom, hcontent⟩
  · exact ⟨hroom, hcontent⟩

/-- A message that stays has the text that a change gives to it, or the one that it had. -/
theorem Change.Spares.holds {c : Change} (hspares : c.Spares roomId id)
    (hd : Holds roomId content d) :
    Holds roomId ((c.rewrite? id).getD content)
      ((c.messageEffect s reads refused id).act d) := by
  cases c with
  | roomNameChanged roomId' name => exact hd
  | roomEncrypted roomId' algorithm =>
    obtain ⟨document, rfl, hroom, hcontent⟩ := hd
    have hmatch : (DocumentQuery.field "room_id" roomId').isMatch document = false :=
      DocumentQuery.isMatch_eq_false_of_room List.mem_cons_self hroom hspares
    refine ⟨document, ?_, hroom, hcontent⟩
    simp [Change.messageEffect, MessageEffect.act, hmatch]
  | messageSent roomId' eventId sender body =>
    -- It is another message that is written.
    have hne : ¬(id = eventId ∧ refused.contains eventId = false) := fun h => hspares h.1.symm
    unfold Change.messageEffect
    dsimp only
    split
    · exact hd
    · rw [if_neg hne]
      exact hd
  | messageEdited roomId' target body =>
    rw [Change.messageEffect, Change.rewrite?]
    by_cases hid : target = id
    · -- The new text goes over the old one, and the room stays.
      obtain ⟨document, rfl, hroom, hcontent⟩ := hd
      rw [if_pos hid, if_pos hid.symm]
      refine ⟨document.insert "content" (.string body), rfl, ?_, ?_⟩
      · rw [KeyMap.get?_insert, if_neg (by decide)]
        exact hroom
      · rw [KeyMap.get?_insert, if_pos rfl]
        rfl
    · rw [if_neg hid, if_neg (Ne.symm hid)]
      exact hd
  | messageRedacted roomId' target =>
    rw [Change.messageEffect, if_neg (Ne.symm hspares)]
    exact hd
  | displayNameChanged roomId' userId displayName => exact hd.map_set_displayName _ _

/-- A message that is written is there with its own text. -/
theorem holds_deliver_sent (hnames : s.indices.rooms ≠ s.indices.messages) {d : Delivery}
    {sender body : String}
    (hsent : d.event.change? = .ok (some (.messageSent roomId id sender body)))
    (hwritten : (d.reads.message? roomId id sender body).isSome)
    (hrefused : m.refused.contains id = false) :
    Holds roomId body ((deliver s m d).document? s.indices.messages id) := by
  obtain ⟨message, hmessage⟩ := Option.isSome_iff_exists.1 hwritten
  obtain ⟨displayName, room, -, -, -, -, rfl⟩ := Sync.message?_eq_some_iff.1 hmessage
  rw [document?_deliver_messages hnames, RoomEvent.messageEffect, hsent]
  dsimp only
  rw [Change.messageEffect, hmessage]
  dsimp only
  rw [if_pos ⟨rfl, hrefused⟩]
  refine ⟨_, rfl, ?_, ?_⟩ <;> simp [MessageDocument.toDocument, KeyMap.get?_ofList]

/-- After any events that leave a message where it is, the index holds it with the text of the last
edit of it, redacted or not. -/
theorem holds_foldl_deliver (hnames : s.indices.rooms ≠ s.indices.messages) {ds : List Delivery}
    (hspares : ∀ d ∈ ds, ∀ c, d.event.change? = .ok (some c) → c.Spares roomId id)
    (hm : Holds roomId content (m.document? s.indices.messages id)) :
    Holds roomId ((ds.filterMap (·.event.rewrite? id)).getLast?.getD content)
      ((ds.foldl (deliver s) m).document? s.indices.messages id) := by
  -- The text so far changes with every edit on the way.
  induction ds generalizing m content with
  | nil => exact hm
  | cons d ds ih =>
    obtain ⟨hspares, hspares'⟩ := List.forall_mem_cons.1 hspares
    have hstep : Holds roomId ((d.event.rewrite? id).getD content)
        ((deliver s m d).document? s.indices.messages id) := by
      rw [document?_deliver_messages hnames]
      unfold RoomEvent.messageEffect RoomEvent.rewrite?
      cases hchange : d.event.change? with
      | error e => exact hm
      | ok asked =>
        cases asked with
        | none => exact hm
        | some c => exact (hspares c hchange).holds hm
    rw [History.getD_getLast?_filterMap_cons]
    exact ih hspares' hstep

end Deliveries

/-! ## In a backfill -/

/-- A message without the name of its sender. -/
def RoomMessage.unnamed (m : RoomMessage) : RoomMessage :=
  { m with displayName := none }

namespace History

variable {names : List MemberName} {before after : List Change} {id : String}

/-- A history without the names of its senders. -/
def unnamed (h : History) : History :=
  { h with messages := h.messages.map RoomMessage.unnamed }

/-- Names make no difference to anything but themselves. -/
theorem unnamed_step (h : History) (c : Change) :
    h.unnamed.step [] c = (h.step names c).unnamed := by
  cases c with
  | messageSent roomId eventId sender body => simp [step, unnamed, displayName, RoomMessage.unnamed]
  | messageEdited roomId target body =>
    have hpositions : h.unnamed.positions = h.positions := rfl
    rw [step, step, hpositions]
    cases h.positions.get? target with
    | none => rfl
    | some position =>
      -- The text changes at the same place, with the names or without them.
      have hmodify : (h.messages.modify position fun m => { m with content := body }).map
          RoomMessage.unnamed = (h.messages.map RoomMessage.unnamed).modify position
            fun m => { m with content := body } := map_modify fun _ => rfl
      exact congrArg (History.mk · h.positions) hmodify.symm
  | _ => rfl

/-- What a history without names becomes does not depend on the names. -/
theorem unnamed_foldl_step (h : History) (changes : List Change) :
    changes.foldl (step []) h.unnamed = (changes.foldl (step names) h).unnamed :=
  List.foldl_hom unnamed fun h c => unnamed_step h c

/-- What comes before a message is sent does not count for it. -/
theorem filter_settled_append (hbefore : ∀ c ∈ before, c.sends id = false) :
    (settled names (before ++ after)).filter (·.eventId = id) =
      (settled names after).filter (·.eventId = id) := by
  induction before with
  | nil => rfl
  | cons c before ih =>
    obtain ⟨hc, hbefore'⟩ := List.forall_mem_cons.1 hbefore
    cases c with
    | messageSent roomId eventId sender body =>
      have hne : eventId ≠ id := by simpa [Change.sends] using hc
      rw [List.cons_append, settled, List.filter_cons_of_neg (by simpa using hne), ih hbefore']
    | _ => exact ih hbefore'

/-- Where a message is not sent again, its text is that of the last edit. -/
theorem standing_of_not_sends (body : String) (hafter : ∀ c ∈ after, c.sends id = false) :
    standing id body after = (after.filterMap (·.rewrite? id)).getLast?.getD body := by
  induction after generalizing body with
  | nil => rfl
  | cons c after ih =>
    obtain ⟨hc, hafter'⟩ := List.forall_mem_cons.1 hafter
    rw [standing_cons _ _ _ hc, getD_getLast?_filterMap_cons, ih _ hafter']

/-- A message that is sent once is there once, with the text of the last edit after it. -/
theorem contents_currentMessages {roomId sender body : String}
    (hbefore : ∀ c ∈ before, c.sends id = false) (hafter : ∀ c ∈ after, c.sends id = false) :
    ((currentMessages (before ++ .messageSent roomId id sender body :: after) names).filter
        (·.eventId = id)).map (·.content) =
      [(after.filterMap (·.rewrite? id)).getLast?.getD body] := by
  let changes := before ++ .messageSent roomId id sender body :: after
  -- The settled messages are those of a history without names.
  have hsettled : ((changes.foldl (step names) empty).unnamed).messages = settled [] changes := by
    rw [← unnamed_foldl_step]
    exact foldl_step (by decide) changes leads_empty
  have hcontents : ((currentMessages changes names).filter (·.eventId = id)).map (·.content) =
      ((settled [] changes).filter (·.eventId = id)).map (·.content) := by
    rw [← hsettled, unnamed, List.filter_map, List.map_map]
    rfl
  have hrest : (settled [] after).filter (·.eventId = id) = [] := by
    rw [← List.append_nil after]
    exact filter_settled_append hafter
  rw [hcontents, filter_settled_append hbefore, settled, List.filter_cons_of_pos (by simp), hrest,
    standing_of_not_sends body hafter]
  rfl

end History

section Rows

variable {rows : List StoredMessage} {redacted : List String} {id : String}

/-- Rows of other events do not send a message. -/
theorem sends_eq_false_of_rows (rows : List StoredMessage)
    (hrows : ∀ row ∈ rows, row.eventId ≠ id) :
    ∀ c ∈ rows.filterMap StoredMessage.change?, c.sends id = false := by
  intro c hc
  obtain ⟨row, hrow, hchange⟩ := List.mem_filterMap.1 hc
  rw [Bool.eq_false_iff]
  intro hsends
  obtain ⟨event, hevent, hsends⟩ := StoredMessage.exists_sends_iff.1 ⟨c, hchange, hsends⟩
  exact hrows row hrow (StoredMessage.eventId_of_sends hevent hsends)

/-- The texts that the rows that are not redacted give to a message are those of the edits of it
that are not redacted. -/
theorem filterMap_rewrite?_of_rows :
    ((rows.filter (·.eventId ∉ redacted)).filterMap StoredMessage.change?).filterMap
        (·.rewrite? id) =
      ((rows.filterMap (·.editOf? id)).filter (·.eventId ∉ redacted)).map (·.body) := by
  induction rows with
  | nil => rfl
  | cons row rows ih =>
    have hedit : row.editOf? id =
        (row.change?.bind (·.rewrite? id)).map fun body => ⟨row.eventId, body⟩ := rfl
    -- A row counts on the left just if its edit does on the right.
    by_cases hredacted : row.eventId ∈ redacted
    · cases hrewrite : row.change?.bind (·.rewrite? id) <;> simp_all
    · cases hchange : row.change? with
      | none => simp_all
      | some c => cases hrewrite : c.rewrite? id <;> simp_all

/-- In a backfill a message is there once, with the text of the last edit that stands. -/
theorem contents_of_rows {before after : List StoredMessage} {row : StoredMessage}
    {names : List MemberName} {roomId sender body : String}
    (hrow : row.change? = some (.messageSent roomId id sender body))
    (hdistinct : ((before ++ row :: after).map (·.eventId)).Nodup) (hcurrent : id ∉ redacted) :
    ((History.currentMessages (((before ++ row :: after).filter (·.eventId ∉ redacted)).filterMap
        StoredMessage.change?) names).filter (·.eventId = id)).map (·.content) =
      [contentAfter body
        ((after.filterMap (·.editOf? id)).filter (·.eventId ∉ redacted))] := by
  -- The message is sent by its own row and by no other one.
  have hid : row.eventId = id := by
    obtain ⟨event, hevent, hsends⟩ := StoredMessage.exists_sends_iff.1
      ⟨_, hrow, Change.sends_eq_true_iff.2 ⟨roomId, sender, body, rfl⟩⟩
    exact StoredMessage.eventId_of_sends hevent hsends
  have hperm : ((before ++ row :: after).map (·.eventId)).Perm
      (id :: (before ++ after).map (·.eventId)) := by
    rw [← hid]
    exact List.perm_middle.map _
  obtain ⟨hnew, -⟩ := List.nodup_cons.1 (hperm.nodup_iff.1 hdistinct)
  have hothers : ∀ other ∈ before ++ after, other.eventId ≠ id := fun other hmem heq =>
    hnew (heq ▸ List.mem_map_of_mem hmem)
  have hbefore := sends_eq_false_of_rows (before.filter (·.eventId ∉ redacted))
    fun other hmem => hothers other (List.mem_append_left _ (List.mem_of_mem_filter hmem))
  have hafter := sends_eq_false_of_rows (after.filter (·.eventId ∉ redacted))
    fun other hmem => hothers other (List.mem_append_right _ (List.mem_of_mem_filter hmem))
  have hstays : (row :: after).filter (·.eventId ∉ redacted) =
      row :: after.filter (·.eventId ∉ redacted) :=
    List.filter_cons_of_pos (by simpa [hid] using hcurrent)
  rw [List.filter_append, hstays, List.filterMap_append,
    List.filterMap_cons_some hrow, History.contents_currentMessages hbefore hafter,
    filterMap_rewrite?_of_rows]
  rfl

end Rows

/-! ## The two texts -/

/-- Leaving edits out makes no difference to the text if the last edit stays, or if it has the text
that the others come to. -/
theorem contentAfter_filter_eq_iff {body : String} {edits : List MessageEdit}
    {p : MessageEdit → Bool} :
    contentAfter body edits = contentAfter body (edits.filter p) ↔
      ∀ last ∈ edits.getLast?, p last = true ∨ last.body = contentAfter body (edits.filter p) := by
  obtain rfl | ⟨first, last, rfl⟩ := edits.eq_nil_or_concat
  · simp
  · have hlast : contentAfter body (first ++ [last]) = last.body := by simp [contentAfter]
    rw [List.concat_eq_append, hlast]
    cases hp : p last <;> simp [hp, contentAfter]

/-- While events are handled, a message comes to have the text of the last edit of it, whether that
edit is redacted or not and whichever redactions of edits are delivered; in a backfill it has the
text of the last edit that is not redacted, or its own.  The two agree just if the last edit is not
redacted, or has the text that stands without it. -/
theorem redacted_edit_stays_iff {s : SyncSettings} {m : Memory} {d : Delivery}
    {ds : List Delivery} {before after : List StoredMessage} {row : StoredMessage}
    {roomId id sender body : String} {edits : List MessageEdit} {redacted : List String}
    (names : List MemberName) (hnames : s.indices.rooms ≠ s.indices.messages)
    (hsent : d.event.change? = .ok (some (.messageSent roomId id sender body)))
    (hwritten : (d.reads.message? roomId id sender body).isSome)
    (hrefused : m.refused.contains id = false)
    (hspares : ∀ d ∈ ds, ∀ c, d.event.change? = .ok (some c) → c.Spares roomId id)
    (hdelivered : ds.filterMap (·.event.rewrite? id) = edits.map (·.body))
    (hrow : row.change? = some (.messageSent roomId id sender body))
    (hdistinct : ((before ++ row :: after).map (·.eventId)).Nodup)
    (hstored : after.filterMap (·.editOf? id) = edits) (hcurrent : id ∉ redacted) :
    let rows := (before ++ row :: after).filter (·.eventId ∉ redacted)
    let standing := contentAfter body (edits.filter (·.eventId ∉ redacted))
    let kept := ((ds.foldl (deliver s) (deliver s m d)).document? s.indices.messages id).bind
      (·.get? "content")
    ∃ messages,
      (Database.runAgainst Database.clearRoomMessages (.ofReplies
        [.rows (rows.map StoredMessage.row), .rows (names.map MemberName.row)])).1 =
          .ok messages ∧
      (messages.filter (·.eventId = id)).map (·.content) = [standing] ∧
      kept = some (.string (contentAfter body edits)) ∧
      (kept = some (.string standing) ↔
        ∀ last ∈ edits.getLast?, last.eventId ∉ redacted ∨ last.body = standing) := by
  intro rows standing kept
  have hkept : kept = some (.string (contentAfter body edits)) := by
    have hfirst := holds_deliver_sent hnames hsent hwritten hrefused
    obtain ⟨document, hdocument, -, hcontent⟩ := holds_foldl_deliver hnames hspares hfirst
    rw [hdelivered] at hcontent
    exact (congrArg (Option.bind · _) hdocument).trans hcontent
  -- The names are asked for in a second query, and have no part in the texts.
  refine ⟨_, Database.runAgainst_clearRoomMessages rows names, ?_, hkept, ?_⟩
  · rw [contents_of_rows hrow hdistinct hcurrent, hstored]
  · -- What is kept is a text, so the two agree just if the texts are equal.
    have hagree : kept = some (.string standing) ↔ contentAfter body edits = standing := by
      simp [hkept]
    rw [hagree, contentAfter_filter_eq_iff]
    simp [standing]

/-! ### A password that was taken back -/

namespace TakenBack

/-- A message. -/
def message : Delivery :=
  ⟨sampleMessage "$1" "@ann" (.ofMembers [("body", .string "see you at six")]), .clear []⟩

/-- The redaction of an edit, by the sender of the edit. -/
def redaction : RoomEvent :=
  { (default : RoomEvent) with
    type := "m.room.redaction", roomId := "!r", sender := "@ann", redacts := some "$2" }

/-- An edit of the message, and the redaction of the edit. -/
def later : List Delivery :=
  [⟨sampleMessage "$2" "@ann" (editContent "$1" "my password is hunter2"), .clear []⟩,
   ⟨redaction, .clear ["$2"]⟩]

/-- The message as it is stored. -/
def row : StoredMessage :=
  ⟨"$1", "!r", "\x7b\"sender\":\"@ann\",\"content\":\x7b\"body\":\"see you at six\"\x7d\x7d"⟩

/-- The edit as it is stored. -/
def editRow : StoredMessage :=
  ⟨"$2", "!r",
    "\x7b\"sender\":\"@ann\",\"content\":\x7b\"m.new_content\":\x7b\"body\":\"my password " ++
      "is hunter2\"\x7d,\"m.relates_to\":\x7b\"rel_type\":\"m.replace\",\"event_id\":\"$1\"" ++
      "\x7d\x7d\x7d"⟩

/-- The messages index after all events. -/
def kept : Option Json :=
  ((later.foldl (deliver .plain) (deliver .plain .empty message)).document? "messages" "$1").bind
    (·.get? "content")

/-- Neither the edit nor its redaction removes the message or writes it anew. -/
theorem spares_later :
    ∀ d ∈ later, ∀ c, d.event.change? = .ok (some c) → c.Spares "!r" "$1" := by
  intro d hd c hchange
  simp only [later, List.mem_cons, List.not_mem_nil, or_false] at hd
  obtain rfl | rfl := hd
  · cases hchange
    trivial
  · cases hchange
    exact (by decide : "$2" ≠ "$1")

theorem editOf?_editRow :
    [editRow].filterMap (·.editOf? "$1") = [⟨"$2", "my password is hunter2"⟩] := by
  decide +kernel

theorem change?_row : row.change? = some (.messageSent "!r" "$1" "@ann" "see you at six") := by
  decide +kernel

end TakenBack

/-- The index has kept the password that was taken back, and a backfill of the same rows has the
text from before. -/
theorem redacted_edit_stays_iff_takenBack :
    "$1" ∉ ["$2"] ∧ TakenBack.kept = some (.string "my password is hunter2") ∧
      ∃ messages,
        (Database.runAgainst Database.clearRoomMessages
          (.ofReplies [.rows [TakenBack.row.row], .rows []])).1 = .ok messages ∧
        (messages.filter (·.eventId = "$1")).map (·.content) = ["see you at six"] := by
  have hnames : SyncSettings.plain.indices.rooms ≠ SyncSettings.plain.indices.messages := by decide
  have hsent : TakenBack.message.event.change? =
      .ok (some (.messageSent "!r" "$1" "@ann" "see you at six")) := rfl
  have hwritten : (TakenBack.message.reads.message? "!r" "$1" "@ann" "see you at six").isSome := by
    decide +kernel
  have hrefused : Memory.empty.refused.contains "$1" = false := rfl
  have hdistinct : (List.map StoredMessage.eventId
      ([] ++ TakenBack.row :: [TakenBack.editRow])).Nodup := by decide
  have hcurrent : "$1" ∉ ["$2"] := by decide
  obtain ⟨messages, hmessages, hcontents, hkept, -⟩ :=
    redacted_edit_stays_iff [] hnames hsent hwritten hrefused TakenBack.spares_later rfl
      TakenBack.change?_row hdistinct TakenBack.editOf?_editRow hcurrent
  exact ⟨hcurrent, hkept, messages, hmessages, hcontents⟩

/-- The text of a redacted edit stays in the index, and a backfill of the same messages does not
have it. -/
theorem text_of_redacted_edit_stays :
    TakenBack.redaction.Redacts "$2" ∧
      TakenBack.kept = some (.string "my password is hunter2") ∧
      (Database.runAgainst Database.clearRoomMessages
        (.ofReplies [.rows [TakenBack.row.row], .rows []])).1 =
          .ok [⟨"$1", "!r", "see you at six", "@ann", none⟩] :=
  ⟨⟨rfl, rfl⟩, by decide +kernel, by decide +kernel⟩

end ChatIndex
