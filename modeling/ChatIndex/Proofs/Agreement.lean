import ChatIndex.Proofs.Backfill
import ChatIndex.Proofs.Effects
import ChatIndex.Proofs.History

/-!
# Live synchronisation and backfill agree on messages

One and the same history of messages reaches the index in two ways.  A backfill reads what the
database has stored, less what was redacted, and folds edits into the messages they name.  The
live service is given one event after the other, redactions among them at any place, and writes
each as it comes.

`Agrees` relates the two half way: of the messages that are never redacted the index holds what
the fold holds, and it holds none whose redaction was delivered.  Each delivery keeps it, so in
the end, when all redactions were delivered, both indices are the same.

* `Agrees.after_delivery`     one more delivery
* `Agrees.after_deliveries`   all of them
* `live_agrees_with_backfill` the two messages indices
-/

namespace ChatIndex

/-! ## Events of a message history -/

namespace RoomEvent

/-- Whether an event is a redaction of the event of an id. -/
def Redacts (event : RoomEvent) (id : String) : Prop :=
  event.type = "m.room.redaction" ∧ event.redacts.or (event.content.getString? "redacts") = some id

/-- A redaction of a well formed id asks for the deletion of that message. -/
theorem Redacts.change? {event : RoomEvent} {id : String} (h : event.Redacts id)
    (hid : isEventId id = true) :
    event.change? = .ok (some (.messageRedacted event.roomId id)) := by
  obtain ⟨htype, htarget⟩ := h
  simp [RoomEvent.change?, redactionChange, htype, htarget, hid, Except.map]

/-- The event without the fields that a message does not need. -/
def bare (event : RoomEvent) : RoomEvent :=
  { event with stateKey := none, redacts := none, unsigned := none }

/-- The classification of a message does not read the fields that `bare` drops. -/
theorem change?_bare {event : RoomEvent} (htype : event.type = "m.room.message") :
    event.bare.change? = event.change? := by
  have htype' : event.bare.type = "m.room.message" := htype
  simp only [RoomEvent.change?, htype, htype']
  rfl

/-- A message asks to be written, or to change the content of another one. -/
theorem cases_of_change?_message {event : RoomEvent} {c : Change}
    (htype : event.type = "m.room.message") (h : event.change? = .ok (some c)) :
    (∃ id body, event.eventId = some id ∧ c = .messageSent event.roomId id event.sender body) ∨
      ∃ target body, c = .messageEdited event.roomId target body := by
  simp [RoomEvent.change?, htype] at h
  -- What replaces another message names its target.
  split at h
  · unfold editChange at h
    dsimp only at h
    split at h <;> simp [Except.map] at h
    exact .inr ⟨_, _, h.symm⟩
  · -- Anything else needs an id of its own.
    unfold messageChange? at h
    split at h <;> simp at h
    next id _ hid => exact .inl ⟨id, _, hid, h.symm⟩

/-- What a message asks for that is not among the redacted ones; nothing for any other event. -/
def currentChange? (redacted : List String) (event : RoomEvent) : Option Change :=
  if event.type = "m.room.message" ∧ ∀ id ∈ event.eventId, id ∉ redacted then
    match event.change? with
    | .ok c => c
    | .error _ => none
  else none

end RoomEvent

/-- The document of a message of the snapshot. -/
def RoomMessage.document (m : RoomMessage) : Document :=
  (Bootstrap.messageEntry m).fields

/-- An edit that the fold has taken in changes one field of the document of the message. -/
theorem RoomMessage.document_edit (m : RoomMessage) (body : String) :
    RoomMessage.document { m with content := body } =
      m.document.insert "content" (.string body) := by
  refine KeyMap.ext_get? fun field => ?_
  rw [KeyMap.get?_insert]
  simp only [document, Bootstrap.messageEntry, MessageDocument.toDocument, KeyMap.get?_ofList]
  -- The two documents are built from the same fields but for the text.
  by_cases hfield : field = "content"
  · subst hfield
    rfl
  · simp [hfield, List.find?_cons]

/-! ## One more delivery -/

/-- A delivery as there may be in a message history: a message of a clear room, with the read
model's answers about it, or the redaction of one of the redacted ids. -/
inductive Delivery.Fits (redacted : List String) (names : List MemberName) (d : Delivery) : Prop
  | message (id : String) (room : RoomDetail) (onRecord : Bool)
      (htype : d.event.type = "m.room.message") (hid : d.event.eventId = some id)
      (hroom : d.reads (.roomDetail d.event.roomId) = .ok room) (hclear : room.isClear = true)
      (hname : d.reads (.displayName d.event.roomId d.event.sender) =
        .ok (History.displayName names d.event.roomId d.event.sender))
      (hredacted : d.reads (.isRedacted id) = .ok onRecord)
      (hcurrent : id ∉ redacted → onRecord = false)
      (hedit : id ∈ redacted → ∀ roomId target body,
        d.event.change? ≠ .ok (some (.messageEdited roomId target body)))
  | redaction (id : String) (hid : id ∈ redacted) (hvalid : isEventId id = true)
      (hredacts : d.event.Redacts id)

/-- An index that is kept in step and the history that it is kept in step with: they agree on
what is never redacted, and nothing is left of what was redacted up to now. -/
structure Agrees (s : SyncSettings) (redacted : List String) (gone : String → Prop) (m : Memory)
    (h : History) : Prop where
  refused : m.refused = []
  sound : h.Sound
  clean : ∀ id ∈ redacted, id ∉ h.ids
  same : ∀ id, id ∉ redacted →
    m.document? s.indices.messages id = (h.message? id).map RoomMessage.document
  goneRedacted : ∀ id, gone id → id ∈ redacted
  absent : ∀ id, gone id → m.document? s.indices.messages id = none

variable {s : SyncSettings} {redacted : List String} {names : List MemberName}
  {gone : String → Prop} {m : Memory} {h : History} {d : Delivery}

/-- The case of a redaction: one more id is gone, and the history stays as it is, since it never
held a redacted message. -/
private theorem Agrees.deliver_redaction {id : String} (hagrees : Agrees s redacted gone m h)
    (hid : id ∈ redacted) (hvalid : isEventId id = true) (hredacts : d.event.Redacts id) :
    Agrees s redacted (fun id => gone id ∨ d.event.Redacts id) (deliver s m d) h := by
  have hchange := hredacts.change? hvalid
  have hdocument : ∀ id', (deliver s m d).document? s.indices.messages id' =
      if id' = id then none else m.document? s.indices.messages id' := by
    intro id'
    rw [deliver_of_change hchange, Sync.document?_redacted]
  -- An event names one target only.
  have honly : ∀ id', d.event.Redacts id' → id' = id := fun id' h' =>
    Option.some.inj (h'.2.symm.trans hredacts.2)
  refine ⟨?_, hagrees.sound, hagrees.clean, ?_, ?_, ?_⟩
  · -- No write is refused, and the messages that have to stay the same are others than the one that
    -- goes.
    rw [refused_deliver, hagrees.refused]
  · intro id' hid'
    have hne : id' ≠ id := fun heq => hid' (heq ▸ hid)
    rw [hdocument, if_neg hne]
    exact hagrees.same id' hid'
  · rintro id' (hgone | h')
    · exact hagrees.goneRedacted id' hgone
    · exact honly id' h' ▸ hid
  · rintro id' (hgone | h')
    · rw [hdocument]
      split
      · rfl
      · exact hagrees.absent id' hgone
    · rw [hdocument, if_pos (honly id' h')]

/-- The case of a new message: either both sides take it in, or it is one of the redacted ones and
the history leaves it out. -/
private theorem Agrees.deliver_sent {id body : String} {room : RoomDetail} {onRecord : Bool}
    (hagrees : Agrees s redacted gone m h) (hnames : s.indices.rooms ≠ s.indices.messages)
    (hchange : d.event.change? = .ok (some (.messageSent d.event.roomId id d.event.sender body)))
    (hroom : d.reads (.roomDetail d.event.roomId) = .ok room) (hclear : room.isClear = true)
    (hname : d.reads (.displayName d.event.roomId d.event.sender) =
      .ok (History.displayName names d.event.roomId d.event.sender))
    (hredacted : d.reads (.isRedacted id) = .ok onRecord)
    (hcurrent : id ∉ redacted → onRecord = false) (hnew : id ∉ h.ids)
    (hgone : ∀ id, gone id → d.reads (.isRedacted id) = .ok true) :
    Agrees s redacted gone (deliver s m d)
      (if id ∈ redacted then h else
        h.step names (.messageSent d.event.roomId id d.event.sender body)) := by
  have hdocument : ∀ id', (deliver s m d).document? s.indices.messages id' =
      if onRecord = false ∧ id' = id then
        some (MessageDocument.toDocument ⟨id, d.event.roomId, body, d.event.sender,
          History.displayName names d.event.roomId d.event.sender⟩)
      else m.document? s.indices.messages id' := by
    intro id'
    rw [deliver_of_change hchange]
    exact Sync.document?_sent hnames hagrees.refused hname hredacted hroom hclear id'
  have hrefused : (deliver s m d).refused = [] := (refused_deliver s m d).trans hagrees.refused
  have habsent : ∀ id', gone id' → (deliver s m d).document? s.indices.messages id' = none := by
    intro id' hid'
    rw [hdocument]
    split
    · next hwritten =>
      -- What is on record as redacted is not written.
      have hread := hgone id' hid'
      rw [hwritten.2, hredacted, hwritten.1] at hread
      exact nomatch hread
    · exact hagrees.absent id' hid'
  split
  · next hid =>
    -- The index may hold it for now; the history leaves it out from the start.
    refine ⟨hrefused, hagrees.sound, hagrees.clean, ?_, hagrees.goneRedacted, habsent⟩
    intro id' hid'
    have hne : ¬ (onRecord = false ∧ id' = id) := fun hwritten => hid' (hwritten.2 ▸ hid)
    rw [hdocument, if_neg hne]
    exact hagrees.same id' hid'
  · next hid =>
    -- The message is never redacted, so the read model does not have it on record and it is
    -- written.
    refine ⟨hrefused, hagrees.sound.step_sent hnew, ?_, ?_, hagrees.goneRedacted, habsent⟩
    · intro id' hid' hmem
      rw [History.ids_step_sent, List.mem_append, List.mem_singleton] at hmem
      obtain hmem | rfl := hmem
      · exact hagrees.clean id' hid' hmem
      · exact hid hid'
    · intro id' hid'
      rw [hdocument, History.message?_step_sent id' hnew, hcurrent hid]
      by_cases heq : id' = id
      · rw [if_pos ⟨rfl, heq⟩, if_pos heq]
        rfl
      · have hne : ¬ (false = false ∧ id' = id) := fun hwritten => heq hwritten.2
        rw [if_neg hne, if_neg heq]
        exact hagrees.same id' hid'

/-- The case of an edit: both sides replace the text of the message, if they hold it. -/
private theorem Agrees.deliver_edited {roomId target body : String}
    (hagrees : Agrees s redacted gone m h)
    (hchange : d.event.change? = .ok (some (.messageEdited roomId target body))) :
    Agrees s redacted gone (deliver s m d)
      (h.step names (.messageEdited roomId target body)) := by
  have hdocument : ∀ id, (deliver s m d).document? s.indices.messages id =
      if id = target then
        (m.document? s.indices.messages id).map (·.insert "content" (.string body))
      else m.document? s.indices.messages id := by
    intro id
    rw [deliver_of_change hchange, Sync.document?_edited]
  refine ⟨?_, hagrees.sound.step_edited .., ?_, ?_, hagrees.goneRedacted, ?_⟩
  · rw [refused_deliver, hagrees.refused]
  · intro id hid
    rw [History.ids_step_edited]
    exact hagrees.clean id hid
  · intro id hid
    -- Both sides change the target if they hold it, and no other message.
    rw [hdocument, History.message?_step_edited hagrees.sound, hagrees.same id hid]
    split
    · cases h.message? id with
      | none => rfl
      | some message => exact congrArg some (message.document_edit body).symm
    · rfl
  · intro id hid
    rw [hdocument, hagrees.absent id hid]
    split <;> rfl

/-- The history after a delivery. -/
def Delivery.followed (redacted : List String) (names : List MemberName) (h : History)
    (d : Delivery) : History :=
  match d.event.currentChange? redacted with
  | some c => h.step names c
  | none => h

/-- A message is followed unless it is redacted in the end. -/
private theorem Delivery.followed_message {id : String}
    (htype : d.event.type = "m.room.message") (hid : d.event.eventId = some id) :
    d.followed redacted names h =
      if id ∈ redacted then h else
        match d.event.change? with
        | .ok (some c) => h.step names c
        | _ => h := by
  have hcurrent : (∀ id' ∈ d.event.eventId, id' ∉ redacted) ↔ id ∉ redacted := by
    rw [hid]
    simp
  unfold followed RoomEvent.currentChange?
  -- The change is read only when the id passes the filter.
  by_cases hmem : id ∈ redacted
  · rw [if_neg (fun hboth => hcurrent.1 hboth.2 hmem), if_pos hmem]
  · rw [if_pos ⟨htype, hcurrent.2 hmem⟩, if_neg hmem]
    cases d.event.change? with
    | error e => rfl
    | ok c => cases c <;> rfl

/-- What is no message leaves the history as it is. -/
private theorem Delivery.followed_of_type (htype : d.event.type ≠ "m.room.message") :
    d.followed redacted names h = h := by
  rw [followed, RoomEvent.currentChange?, if_neg (fun hboth => htype hboth.1)]

/-- Each delivery keeps the index and the history in agreement. -/
theorem Agrees.after_delivery (hagrees : Agrees s redacted gone m h)
    (hnames : s.indices.rooms ≠ s.indices.messages) (hfits : d.Fits redacted names)
    (hnew : d.event.type = "m.room.message" → ∀ id ∈ d.event.eventId, id ∉ h.ids)
    (hgone : ∀ id, gone id → d.reads (.isRedacted id) = .ok true) :
    Agrees s redacted (fun id => gone id ∨ d.event.Redacts id) (deliver s m d)
      (d.followed redacted names h) := by
  cases hfits with
  | redaction id hid hvalid hredacts =>
    have htype : d.event.type ≠ "m.room.message" := by
      rw [hredacts.1]
      decide
    rw [Delivery.followed_of_type htype]
    exact hagrees.deliver_redaction hid hvalid hredacts
  | message id room onRecord htype hid hroom hclear hname hredacted hcurrent hedit =>
    -- A message redacts nothing.
    have hsame : (fun id => gone id ∨ d.event.Redacts id) = gone := by
      funext id'
      refine propext (or_iff_left fun hredacts => ?_)
      rw [hredacts.1] at htype
      exact absurd htype (by decide)
    rw [hsame, Delivery.followed_message htype hid]
    -- By what the message asks for: nothing at all, a message of its own, or an edit.
    cases hchange : d.event.change? with
    | error e =>
      rw [deliver_of_no_change (fun c hc => nomatch hchange.symm.trans hc)]
      simpa using hagrees
    | ok asked =>
      cases asked with
      | none =>
        rw [deliver_of_no_change (fun c hc => nomatch hchange.symm.trans hc)]
        simpa using hagrees
      | some c =>
        -- The event asks for a message under its own id, or for an edit.
        obtain ⟨id', body, hid', rfl⟩ | ⟨target, body, rfl⟩ :=
          RoomEvent.cases_of_change?_message htype hchange
        · cases Option.some.inj (hid.symm.trans hid')
          exact hagrees.deliver_sent hnames hchange hroom hclear hname hredacted hcurrent
            (hnew htype id hid) hgone
        · -- Redacted messages are no edits.
          have hid : id ∉ redacted := fun hmem => hedit hmem _ _ _ hchange
          rw [if_neg hid]
          exact hagrees.deliver_edited hchange

/-- What a delivery adds to the ids of the history is its own id. -/
private theorem Delivery.mem_ids_followed {id : String}
    (hmem : id ∈ (d.followed redacted names h).ids) :
    id ∈ h.ids ∨ d.event.type = "m.room.message" ∧ d.event.eventId = some id := by
  unfold followed at hmem
  split at hmem
  · next c hc =>
    unfold RoomEvent.currentChange? at hc
    split at hc
    · next hmessage =>
      split at hc
      · next hchange =>
        subst hc
        -- A message adds its own id to those of the history, and an edit adds none.
        obtain ⟨id', body, hid', rfl⟩ | ⟨target, body, rfl⟩ :=
          RoomEvent.cases_of_change?_message hmessage.1 hchange
        · rw [History.ids_step_sent, List.mem_append, List.mem_singleton] at hmem
          obtain hmem | rfl := hmem
          · exact .inl hmem
          · exact .inr ⟨hmessage.1, hid'⟩
        · rw [History.ids_step_edited] at hmem
          exact .inl hmem
      · exact nomatch hc
    · exact nomatch hc
  · exact .inl hmem

/-! ## All deliveries -/

/-- What holds of any two deliveries, the first of them earlier: they are not of the same message,
and the read model knows of a redaction from then on. -/
def Delivery.Before (d d' : Delivery) : Prop :=
  (d.event.type = "m.room.message" → d'.event.type = "m.room.message" →
    d.event.eventId ≠ d'.event.eventId) ∧
    ∀ id, d.event.Redacts id → d'.reads (.isRedacted id) = .ok true

/-- All deliveries together keep the agreement. -/
theorem Agrees.after_deliveries {ds : List Delivery} (hnames : s.indices.rooms ≠ s.indices.messages)
    (hfits : ∀ d ∈ ds, d.Fits redacted names) (hbefore : ds.Pairwise Delivery.Before)
    (hnew : ∀ d ∈ ds, d.event.type = "m.room.message" → ∀ id ∈ d.event.eventId, id ∉ h.ids)
    (hgone : ∀ d ∈ ds, ∀ id, gone id → d.reads (.isRedacted id) = .ok true)
    (hagrees : Agrees s redacted gone m h) :
    Agrees s redacted (fun id => gone id ∨ ∃ d ∈ ds, d.event.Redacts id)
      (ds.foldl (deliver s) m) (ds.foldl (fun h d => d.followed redacted names h) h) := by
  -- What is gone grows with every redaction on the way.
  induction ds generalizing gone m h with
  | nil => simpa using hagrees
  | cons d ds ih =>
    obtain ⟨hfirst, hbefore⟩ := List.pairwise_cons.1 hbefore
    have hstep := hagrees.after_delivery hnames (hfits d List.mem_cons_self)
      (hnew d List.mem_cons_self) (hgone d List.mem_cons_self)
    -- The side conditions of the rest: no id comes twice, and the read model knows of what is gone.
    have hrest := ih (fun d' hd' => hfits d' (List.mem_cons_of_mem _ hd')) hbefore
      (fun d' hd' htype id hid hmem => by
        obtain hmem | ⟨htype', hid'⟩ := Delivery.mem_ids_followed hmem
        · exact hnew d' (List.mem_cons_of_mem _ hd') htype id hid hmem
        · exact (hfirst d' hd').1 htype' htype (hid'.trans hid.symm))
      (fun d' hd' id hid => by
        obtain hid | hid := hid
        · exact hgone d' (List.mem_cons_of_mem _ hd') id hid
        · exact (hfirst d' hd').2 id hid) hstep
    have hgoneEq : (fun id => (gone id ∨ d.event.Redacts id) ∨ ∃ d' ∈ ds, d'.event.Redacts id) =
        fun id => gone id ∨ ∃ d' ∈ d :: ds, d'.event.Redacts id := by
      funext id
      simp [or_assoc]
    rwa [hgoneEq] at hrest

/-! ## Messages as stored and as delivered -/

/-- A message history: the stored rows, the ids that are redacted in the end, the latest display
name of each member of a room, the same as the rows of a reply, and the deliveries. -/
structure Chronicle where
  rows : List StoredMessage
  redacted : List String
  displayName : String → String → Option String
  names : List MemberName
  deliveries : List Delivery

namespace Chronicle

/-- The stored rows and the deliveries tell the same. -/
structure Coherent (x : Chronicle) : Prop where
  distinct : (x.rows.map (·.eventId)).Nodup
  redactedIds : ∀ id ∈ x.redacted, isEventId id = true
  redactedEdits : ∀ row ∈ x.rows, row.eventId ∈ x.redacted → ∀ roomId target body,
    row.change? ≠ some (.messageEdited roomId target body)
  /-- Every row of names has the latest one. -/
  namesLatest : ∀ m ∈ x.names, m.displayName = x.displayName m.roomId m.userId
  /-- Every sender with a display name has a row. -/
  namesComplete : ∀ row ∈ x.rows, ∀ event ∈ row.event?,
    x.displayName event.roomId event.sender ≠ none →
      ∃ m ∈ x.names, m.roomId = event.roomId ∧ m.userId = event.sender
  /-- The messages delivered are the readable rows, in their order. -/
  messages : ((x.deliveries.map (·.event)).filter (·.type = "m.room.message")).map RoomEvent.bare =
    x.rows.filterMap StoredMessage.event?
  /-- Everything else that is delivered is a redaction. -/
  redactions : ∀ d ∈ x.deliveries, d.event.type ≠ "m.room.message" →
    ∃ id ∈ x.redacted, d.event.Redacts id
  redactedAll : ∀ id ∈ x.redacted, ∃ d ∈ x.deliveries, d.event.Redacts id
  clear : ∀ d ∈ x.deliveries, ∀ row ∈ x.rows, ∃ room : RoomDetail,
    d.reads (.roomDetail row.roomId) = .ok room ∧ room.isClear = true
  latest : ∀ d ∈ x.deliveries, ∀ roomId userId,
    d.reads (.displayName roomId userId) = .ok (x.displayName roomId userId)
  /-- Only what is redacted in the end is ever on record as redacted. -/
  onRecord : ∀ d ∈ x.deliveries, ∀ id, ∃ onRecord : Bool,
    d.reads (.isRedacted id) = .ok onRecord ∧ (id ∉ x.redacted → onRecord = false)
  /-- What was redacted is on record as redacted from then on. -/
  onRecordAfter : x.deliveries.Pairwise fun d d' =>
    ∀ id, d.event.Redacts id → d'.reads (.isRedacted id) = .ok true

/-- The rows that the database gives for a snapshot of the current messages: stored messages that
are not redacted, then display names. -/
def replies (x : Chronicle) : List Database.Reply :=
  [.rows ((x.rows.filter (·.eventId ∉ x.redacted)).map StoredMessage.row),
   .rows (x.names.map MemberName.row)]

variable {x : Chronicle}

/-- Latest names are found among the rows. -/
private theorem Coherent.displayName_eq (hx : x.Coherent) {row : StoredMessage}
    {event : RoomEvent} (hrow : row ∈ x.rows) (hevent : row.event? = some event) :
    History.displayName x.names event.roomId event.sender =
      x.displayName event.roomId event.sender := by
  unfold History.displayName
  cases hfind : x.names.reverse.find? fun m =>
      m.roomId = event.roomId ∧ m.userId = event.sender ∧ m.displayName.isSome with
  | some m =>
    have hm := List.mem_reverse.1 (List.mem_of_find?_eq_some hfind)
    have hkey : m.roomId = event.roomId ∧ m.userId = event.sender ∧ m.displayName.isSome := by
      simpa using List.find?_some hfind
    rw [Option.bind_some, hx.namesLatest m hm, hkey.1, hkey.2.1]
  | none =>
    rw [Option.bind_none]
    by_cases hname : x.displayName event.roomId event.sender = none
    · exact hname.symm
    · -- Somebody with a name has a row that would have been found.
      obtain ⟨m, hm, hroom, huser⟩ := hx.namesComplete row hrow event hevent hname
      have hlatest := hx.namesLatest m hm
      rw [hroom, huser] at hlatest
      have hsome : m.displayName.isSome := Option.isSome_iff_ne_none.2 (hlatest ▸ hname)
      rw [List.find?_eq_none] at hfind
      exact absurd (by simp [hroom, huser, hsome]) (hfind m (List.mem_reverse.2 hm))

/-- A message that is delivered has a row. -/
private theorem Coherent.exists_row (hx : x.Coherent) {d : Delivery} (hd : d ∈ x.deliveries)
    (htype : d.event.type = "m.room.message") :
    ∃ row ∈ x.rows, row.event? = some d.event.bare := by
  have hmem : d.event.bare ∈ x.rows.filterMap StoredMessage.event? := by
    rw [← hx.messages]
    refine List.mem_map_of_mem (List.mem_filter.2 ⟨List.mem_map_of_mem hd, ?_⟩)
    simpa using htype
  exact List.mem_filterMap.1 hmem

/-- Every delivery of a coherent chronicle is one that a step of the agreement takes. -/
private theorem Coherent.fits (hx : x.Coherent) {d : Delivery} (hd : d ∈ x.deliveries) :
    d.Fits x.redacted x.names := by
  by_cases htype : d.event.type = "m.room.message"
  · -- A message has a row, and the read model answers about it from the latest names.
    obtain ⟨row, hrow, hevent⟩ := hx.exists_row hd htype
    obtain ⟨-, hroomId, heventId⟩ := StoredMessage.fields_of_event? hevent
    obtain ⟨room, hroom, hclear⟩ := hx.clear d hd row hrow
    obtain ⟨onRecord, hredacted, hcurrent⟩ := hx.onRecord d hd row.eventId
    have hroomId : d.event.roomId = row.roomId := hroomId
    have hname := hx.latest d hd d.event.roomId d.event.sender
    have hnames : History.displayName x.names d.event.roomId d.event.sender =
        x.displayName d.event.roomId d.event.sender := by
      have hbare := hx.displayName_eq hrow hevent
      exact hbare
    rw [← hnames] at hname
    refine .message row.eventId room onRecord htype heventId (hroomId ▸ hroom) hclear hname
      hredacted hcurrent ?_
    intro hmem roomId target body hchange
    refine hx.redactedEdits row hrow hmem roomId target body ?_
    rw [StoredMessage.change?, hevent, Option.map_some, RoomEvent.change?_bare htype, hchange]
  · -- Everything else that is delivered is a redaction.
    obtain ⟨id, hid, hredacts⟩ := hx.redactions d hd htype
    exact .redaction id hid (hx.redactedIds id hid) hredacts

/-- In a coherent chronicle earlier and later deliveries stand in the order that the run lemma asks
for: ids are distinct because the rows have distinct ids. -/
private theorem Coherent.before (hx : x.Coherent) : x.deliveries.Pairwise Delivery.Before := by
  have hrows : x.rows.Pairwise fun row row' => row.eventId ≠ row'.eventId :=
    List.pairwise_map.1 hx.distinct
  have hevents : (x.rows.filterMap StoredMessage.event?).Pairwise
      fun event event' => event.eventId ≠ event'.eventId := by
    rw [List.pairwise_filterMap]
    refine hrows.imp fun hne event hevent event' hevent' heq => hne ?_
    obtain ⟨-, -, hid⟩ := StoredMessage.fields_of_event? hevent
    obtain ⟨-, -, hid'⟩ := StoredMessage.fields_of_event? hevent'
    rw [hid, hid'] at heq
    exact Option.some.inj heq
  -- The rows that can be read are the messages delivered, in the same order.
  rw [← hx.messages, List.filter_map, List.map_map, List.pairwise_map, List.pairwise_filter]
    at hevents
  refine (hevents.and hx.onRecordAfter).imp fun hboth => ⟨fun htype htype' => ?_, hboth.2⟩
  exact hboth.1 (decide_eq_true htype) (decide_eq_true htype')

/-- The changes of the snapshot are those of the messages that are delivered and never redacted. -/
private theorem Coherent.changes_eq (hx : x.Coherent) :
    (x.rows.filter (·.eventId ∉ x.redacted)).filterMap StoredMessage.change? =
      x.deliveries.filterMap fun d => d.event.currentChange? x.redacted := by
  have hstored : (x.rows.filter (·.eventId ∉ x.redacted)).filterMap StoredMessage.change? =
      (x.rows.filterMap StoredMessage.event?).filterMap
        (RoomEvent.currentChange? x.redacted) := by
    rw [List.filterMap_filter, List.filterMap_filterMap]
    congr 1
    funext row
    unfold StoredMessage.change?
    cases hevent : row.event? with
    | none => simp
    | some event =>
      obtain ⟨htype, -, heventId⟩ := StoredMessage.fields_of_event? hevent
      by_cases hid : row.eventId ∈ x.redacted
      · simp [RoomEvent.currentChange?, heventId, hid]
      · simp [RoomEvent.currentChange?, htype, heventId, hid]
        cases event.change? <;> rfl
  -- A delivered event and its stored form differ in fields that a message does not need.
  have hbare : ∀ d : Delivery,
      (if d.event.type = "m.room.message" then d.event.bare.currentChange? x.redacted else none) =
        d.event.currentChange? x.redacted := by
    intro d
    unfold RoomEvent.currentChange?
    by_cases htype : d.event.type = "m.room.message"
    · rw [if_pos htype, RoomEvent.change?_bare htype]
      rfl
    · rw [if_neg htype, if_neg (fun hboth => htype hboth.1)]
  rw [hstored, ← hx.messages, List.filter_map, List.map_map, List.filterMap_map,
    List.filterMap_filter]
  congr 1
  funext d
  rw [← hbare d]
  simp

/-- The history of the snapshot. -/
def history (x : Chronicle) : History :=
  ((x.rows.filter (·.eventId ∉ x.redacted)).filterMap StoredMessage.change?).foldl
    (History.step x.names) .empty

/-- After all deliveries the index that is kept in step agrees with the history of the
snapshot. -/
private theorem Coherent.agrees (hx : x.Coherent) (hnames : s.indices.rooms ≠ s.indices.messages)
    (hempty : m.documents s.indices.messages = .empty) (hrefused : m.refused = []) :
    Agrees s x.redacted (fun id => ∃ d ∈ x.deliveries, d.event.Redacts id)
      (x.deliveries.foldl (deliver s) m) x.history := by
  -- At the start nothing is gone and neither side holds a message.
  have hstart : Agrees s x.redacted (fun _ => False) m .empty := by
    refine ⟨hrefused, History.sound_empty, ?_, ?_, ?_, ?_⟩
    · exact fun _ _ => List.not_mem_nil
    · intro id _
      rw [Memory.document?, hempty]
      rfl
    · exact fun _ h => h.elim
    · exact fun _ h => h.elim
  -- At the end exactly the ids that some delivery redacts are gone.
  have hend := hstart.after_deliveries hnames (fun d hd => hx.fits hd) hx.before
    (fun _ _ _ _ _ => List.not_mem_nil) (fun _ _ _ h => h.elim)
  have hhistory :
      x.deliveries.foldl (fun h d => d.followed x.redacted x.names h) .empty = x.history := by
    rw [history, hx.changes_eq, List.foldl_filterMap]
    congr 1
    funext h d
    unfold Delivery.followed
    split <;> simp_all
  simpa only [false_or, hhistory] using hend

end Chronicle

/-- A backfill from what is stored of a message history and the live synchronisation with what is
delivered of it leave the same messages index. -/
theorem live_agrees_with_backfill {s : SyncSettings} {x : Chronicle} {reads : Answers}
    {rooms : List RoomName} {m₀ m₁ : Memory} (hx : x.Coherent)
    (hnames : s.indices.rooms ≠ s.indices.messages) (batchSize : Nat)
    (hrooms : reads .clearRoomNames = .ok rooms) (hroomIds : (rooms.map (·.roomId)).Nodup)
    (hmessages : reads .clearRoomMessages =
      (Database.runAgainst Database.clearRoomMessages (.ofReplies x.replies)).1)
    (hindices : m₀.indices = .empty) (hseed : m₀.preseed = .empty) (hrefused₀ : m₀.refused = [])
    (hempty : m₁.documents s.indices.messages = .empty) (hrefused₁ : m₁.refused = []) :
    ∃ report restored,
      Attempt.against reads (Bootstrap.run batchSize s.indices) m₀ = (.ok report, restored) ∧
      restored.documents s.indices.messages =
        (x.deliveries.foldl (deliver s) m₁).documents s.indices.messages := by
  rw [Chronicle.replies, Database.runAgainst_clearRoomMessages] at hmessages
  have hmessages : reads .clearRoomMessages = .ok x.history.messages := hmessages
  have hagrees := hx.agrees hnames hempty hrefused₁
  obtain ⟨restored, hrun, -, hdocuments⟩ := Bootstrap.against_run hnames hrooms hroomIds hmessages
    hagrees.sound.nodup hindices hrefused₀ hseed
  refine ⟨_, restored, hrun, KeyMap.ext_get? fun id => ?_⟩
  -- The history lists each message once, so the lookup in what was written is the lookup in the
  -- history.
  have hnodup : ((x.history.messages.map Bootstrap.messageEntry).map (·.id)).Nodup := by
    rw [List.map_map]
    exact hagrees.sound.nodup
  have hrestored : restored.document? s.indices.messages id =
      (x.history.message? id).map RoomMessage.document := by
    rw [Memory.document?, hdocuments, Index.get?_written hnodup, List.find?_map,
      KeyMap.get?_empty, Option.or_none, Option.map_map]
    rfl
  refine hrestored.trans (Eq.symm ?_)
  -- All redactions were delivered, so each id is either gone or the same on both sides.
  by_cases hid : id ∈ x.redacted
  · have hnone := History.message?_eq_none_iff.2 (hagrees.clean id hid)
    rw [hnone]
    exact hagrees.absent id (hx.redactedAll id hid)
  · exact hagrees.same id hid

/-- The content of a message that changes the one of an id. -/
def editContent (target body : String) : Json :=
  .ofMembers
    [("m.new_content", .ofMembers [("body", .string body)]),
     ("m.relates_to",
      .ofMembers [("rel_type", .string "m.replace"), ("event_id", .string target)])]

/-- A read model of clear rooms in which these ids are on record as redacted. -/
def Answers.clear (redacted : List String) : Answers
  | .roomDetail roomId => .ok { (default : RoomDetail) with roomId }
  | .displayName _ userId => .ok (if userId = "@ann" then some "Ann" else none)
  | .isRedacted id => .ok (redacted.contains id)
  | _ => .error (.database "not asked")

/-- A message with a content, as an event. -/
def sampleMessage (id sender : String) (content : Json) : RoomEvent :=
  { (default : RoomEvent) with
    type := "m.room.message", roomId := "!r", sender, content, eventId := some id }

/-- A message, one that is redacted before the edit of the first one arrives, and that edit. -/
def Chronicle.sample : Chronicle :=
  let redaction : RoomEvent :=
    { (default : RoomEvent) with type := "m.room.redaction", roomId := "!r", redacts := some "$2" }
  { rows :=
      [⟨"$1", "!r",
        "\x7b\"sender\":\"@ann\",\"content\":\x7b\"body\":\"see you at six\"\x7d\x7d"⟩,
       ⟨"$2", "!r", "\x7b\"sender\":\"@bob\",\"content\":\x7b\"body\":\"wrong room\"\x7d\x7d"⟩,
       ⟨"$3", "!r",
        "\x7b\"sender\":\"@ann\",\"content\":\x7b\"m.new_content\":\x7b\"body\":\"make it " ++
          "seven\"\x7d,\"m.relates_to\":\x7b\"rel_type\":\"m.replace\",\"event_id\":\"$1\"" ++
          "\x7d\x7d\x7d"⟩]
    redacted := ["$2"]
    displayName := fun _ userId => if userId = "@ann" then some "Ann" else none
    names := [⟨"!r", "@ann", some "Ann"⟩, ⟨"!r", "@bob", none⟩]
    deliveries :=
      [⟨sampleMessage "$1" "@ann" (.ofMembers [("body", .string "see you at six")]), .clear []⟩,
       ⟨sampleMessage "$2" "@bob" (.ofMembers [("body", .string "wrong room")]), .clear []⟩,
       ⟨redaction, .clear ["$2"]⟩,
       ⟨sampleMessage "$3" "@ann" (editContent "$1" "make it seven"), .clear ["$2"]⟩] }

/-- What can be read of the stored rows. -/
private theorem Chronicle.event?_sample :
    sample.rows.filterMap StoredMessage.event? =
      [sampleMessage "$1" "@ann" (.ofMembers [("body", .string "see you at six")]),
       sampleMessage "$2" "@bob" (.ofMembers [("body", .string "wrong room")]),
       sampleMessage "$3" "@ann" (editContent "$1" "make it seven")] := by
  decide +kernel

/-- The sample chronicle tells one history. -/
theorem Chronicle.coherent_sample : Chronicle.sample.Coherent where
  distinct := by decide
  redactedIds := by decide
  redactedEdits := by
    -- The one redacted row is a message, so no edit is redacted.
    have hsent : ∀ row ∈ sample.rows, row.eventId ∈ sample.redacted →
        row.change? = some (.messageSent "!r" "$2" "@bob" "wrong room") := by decide +kernel
    intro row hrow hid roomId target body hchange
    rw [hsent row hrow hid] at hchange
    exact nomatch hchange
  namesLatest := by decide
  namesComplete := by
    have hsenders : ∀ event ∈ sample.rows.filterMap StoredMessage.event?,
        ∃ m ∈ sample.names, m.roomId = event.roomId ∧ m.userId = event.sender := by
      rw [event?_sample]
      decide
    exact fun row hrow event hevent _ =>
      hsenders event (List.mem_filterMap.2 ⟨row, hrow, hevent⟩)
  messages := by
    rw [event?_sample]
    decide
  redactions := by
    intro d hd htype
    simp only [sample, List.mem_cons, List.not_mem_nil, or_false] at hd
    obtain rfl | rfl | rfl | rfl := hd
    · exact absurd rfl htype
    · exact absurd rfl htype
    · exact ⟨"$2", by decide, rfl, rfl⟩
    · exact absurd rfl htype
  redactedAll := by
    intro id hid
    cases List.mem_singleton.1 hid
    exact ⟨_, List.mem_cons_of_mem _ (List.mem_cons_of_mem _ List.mem_cons_self), rfl, rfl⟩
  clear := by
    intro d hd row _
    simp only [sample, List.mem_cons, List.not_mem_nil, or_false] at hd
    obtain rfl | rfl | rfl | rfl := hd <;> exact ⟨_, rfl, rfl⟩
  latest := by
    intro d hd roomId userId
    simp only [sample, List.mem_cons, List.not_mem_nil, or_false] at hd
    obtain rfl | rfl | rfl | rfl := hd <;> rfl
  onRecord := by
    intro d hd id
    simp only [sample, List.mem_cons, List.not_mem_nil, or_false] at hd
    obtain rfl | rfl | rfl | rfl := hd
    · exact ⟨_, rfl, fun _ => rfl⟩
    · exact ⟨_, rfl, fun _ => rfl⟩
    · exact ⟨_, rfl, fun hid => by simpa [sample] using hid⟩
    · exact ⟨_, rfl, fun hid => by simpa [sample] using hid⟩
  onRecordAfter := by
    -- Only the third delivery redacts anything, and the fourth read it from the record.
    refine List.pairwise_cons.2 ⟨fun d _ id hredacts => absurd hredacts.1 (by decide), ?_⟩
    refine List.pairwise_cons.2 ⟨fun d _ id hredacts => absurd hredacts.1 (by decide), ?_⟩
    refine List.pairwise_cons.2 ⟨fun d hd id hredacts => ?_, List.pairwise_singleton ..⟩
    cases List.mem_singleton.1 hd
    cases hredacts.2
    rfl

/-- The read model at the time of a backfill: a clear room, and the stored messages. -/
def Answers.stored (x : Chronicle) : Answers
  | .clearRoomNames => .ok [⟨"!r", "plans"⟩]
  | .clearRoomMessages =>
    (Database.runAgainst Database.clearRoomMessages (.ofReplies x.replies)).1
  | _ => .error (.database "not asked")

/-- The theorem at the sample chronicle, with batches of two. -/
theorem live_agrees_with_backfill_sample :
    ∃ report restored,
      Attempt.against (.stored .sample) (Bootstrap.run 2 SyncSettings.plain.indices) .empty =
        (.ok report, restored) ∧
      restored.documents SyncSettings.plain.indices.messages =
        (Chronicle.sample.deliveries.foldl (deliver .plain) .empty).documents
          SyncSettings.plain.indices.messages := by
  have hrooms : Answers.stored .sample .clearRoomNames = .ok [⟨"!r", "plans"⟩] := rfl
  exact live_agrees_with_backfill Chronicle.coherent_sample (by decide) 2 hrooms (by decide) rfl rfl
    rfl rfl rfl rfl

/-- Settings with one index for rooms and messages. -/
def SyncSettings.shared : SyncSettings :=
  ⟨⟨"index", "index", "mails"⟩, .everywhere⟩

/-- One index for rooms and messages is not enough: a backfill finds it there after it filled it
with rooms, and leaves out the messages. -/
theorem backfill_omits_messages_of_shared_index :
    Chronicle.sample.Coherent ∧
      ¬ ∃ report restored,
        Attempt.against (.stored .sample) (Bootstrap.run 2 SyncSettings.shared.indices) .empty =
          (.ok report, restored) ∧
        restored.documents SyncSettings.shared.indices.messages =
          (Chronicle.sample.deliveries.foldl (deliver .shared) .empty).documents
            SyncSettings.shared.indices.messages := by
  refine ⟨Chronicle.coherent_sample, ?_⟩
  rintro ⟨report, restored, hrun, hsame⟩
  -- The first message: the backfill did not write it, the live deliveries did.
  have hrestored : ((Attempt.against (.stored .sample)
      (Bootstrap.run 2 SyncSettings.shared.indices) .empty).2.document? "index" "$1") = none := by
    decide +kernel
  have hlive : ((Chronicle.sample.deliveries.foldl (deliver .shared) .empty).document? "index"
      "$1").isSome := by
    decide +kernel
  rw [hrun] at hrestored
  have hdocument : restored.document? "index" "$1" =
      (Chronicle.sample.deliveries.foldl (deliver .shared) .empty).document? "index" "$1" :=
    congrArg (KeyMap.get? · "$1") hsame
  rw [← hdocument, hrestored] at hlive
  exact nomatch hlive

end ChatIndex
