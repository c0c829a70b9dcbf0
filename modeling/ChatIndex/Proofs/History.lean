import ChatIndex.Database

/-!
# The messages of a history by their ids

A history is read with a table of positions beside the list of messages.  `History.message?` looks
a message up by its id instead, and one equation for each kind of change says what reading the
change does to it.  That the table leads to the messages is the invariant `History.Sound`.

* `message?_step_sent`, `message?_step_edited`  what one more change does
* `runAgainst_clearRoomMessages`                the snapshot is the history of the stored rows
-/

namespace ChatIndex

namespace History

variable {names : List MemberName} {h : History}

/-- The ids of the messages, in order. -/
def ids (h : History) : List String :=
  h.messages.map (·.eventId)

/-- The message of an id. -/
def message? (h : History) (id : String) : Option RoomMessage :=
  h.messages.find? (·.eventId = id)

/-- Each message has an id of its own, and the table leads from it to the message. -/
structure Sound (h : History) : Prop where
  nodup : h.ids.Nodup
  positions : ∀ id, h.positions.get? id = h.ids.findIdx? (· = id)

theorem sound_empty : empty.Sound :=
  ⟨List.nodup_nil, fun _ => rfl⟩

/-- An id has no message just if it is not among the ids. -/
theorem message?_eq_none_iff {id : String} : h.message? id = none ↔ id ∉ h.ids := by
  simp [message?, ids]

/-! ## One more change -/

/-- A new message is the one of its id. -/
theorem message?_step_sent {roomId eventId sender body : String} (id : String)
    (hnew : eventId ∉ h.ids) :
    (h.step names (.messageSent roomId eventId sender body)).message? id =
      if id = eventId then
        some ⟨eventId, roomId, body, sender, displayName names roomId sender⟩
      else h.message? id := by
  rw [message?, step, List.find?_append]
  split
  · next hid =>
    subst hid
    have hnone : h.messages.find? (·.eventId = id) = none := message?_eq_none_iff.2 hnew
    simp [hnone]
  · next hid =>
    simp [message?, Ne.symm hid]

theorem ids_step_sent (roomId eventId sender body : String) :
    (h.step names (.messageSent roomId eventId sender body)).ids = h.ids ++ [eventId] := by
  simp [ids, step]

/-- A new message keeps the table in order. -/
theorem Sound.step_sent {roomId eventId sender body : String} (hsound : h.Sound)
    (hnew : eventId ∉ h.ids) : (h.step names (.messageSent roomId eventId sender body)).Sound := by
  have hlength : h.messages.length = h.ids.length := by simp [ids]
  constructor
  · rw [ids_step_sent, List.nodup_append]
    refine ⟨hsound.nodup, by simp, ?_⟩
    intro a ha b hb
    rw [List.mem_singleton.1 hb]
    exact fun heq => hnew (heq ▸ ha)
  · intro id
    -- The new message stands at the end, where the table leads for its id.
    rw [ids_step_sent, List.findIdx?_append, ← hsound.positions, step]
    dsimp only
    rw [KeyMap.get?_insert]
    split
    · next hid =>
      subst hid
      -- The id is new, so the table did not lead anywhere for it.
      have hnone : h.positions.get? id = none := by
        rw [hsound.positions, List.findIdx?_eq_none_iff]
        intro a ha
        have hne : a ≠ id := fun heq => hnew (heq ▸ ha)
        simpa using hne
      simp [hnone, hlength]
    · next hid => simp [Ne.symm hid]

/-- Where each message has an id of its own, changing the one at the position of an id is changing
the one of that id. -/
private theorem modify_eq_map {messages : List RoomMessage} {position : Nat} {id : String}
    (hnodup : (messages.map (·.eventId)).Nodup)
    (hposition : (messages.map (·.eventId))[position]? = some id) (f : RoomMessage → RoomMessage) :
    messages.modify position f = messages.map fun m => if m.eventId = id then f m else m := by
  apply List.ext_getElem?
  intro i
  rw [List.getElem?_modify, List.getElem?_map]
  cases hm : messages[i]? with
  | none => rfl
  | some m =>
    have hi : (messages.map (·.eventId))[i]? = some m.eventId := by
      rw [List.getElem?_map, hm, Option.map_some]
    by_cases heq : position = i
    · subst heq
      rw [hposition] at hi
      have hid : m.eventId = id := (Option.some.inj hi).symm
      simp [hid]
    · -- The message of the id is at one position only.
      have hid : m.eventId ≠ id := by
        intro hid
        have hlt : i < (messages.map (·.eventId)).length := by
          obtain ⟨hlt, -⟩ := List.getElem?_eq_some_iff.1 hi
          exact hlt
        have hsame := hposition.trans (hi.trans (congrArg some hid)).symm
        exact heq ((List.getElem?_inj hlt hnodup).1 hsame.symm).symm
      simp [heq, hid]

/-- Reading an edit changes the content of the message it names, if there is one. -/
private theorem step_edited (hsound : h.Sound) (roomId target body : String) :
    h.step names (.messageEdited roomId target body) =
      { h with messages := h.messages.map fun m =>
          if m.eventId = target then { m with content := body } else m } := by
  rw [step]
  cases hposition : h.positions.get? target with
  | some position =>
    -- The table leads to the target, and the message there is the one of the id.
    rw [hsound.positions, List.findIdx?_eq_some_iff_getElem] at hposition
    obtain ⟨hlt, hid, -⟩ := hposition
    have hid : h.ids[position]? = some target := by
      rw [List.getElem?_eq_getElem hlt]
      simpa using hid
    dsimp only
    rw [modify_eq_map hsound.nodup hid]
  | none =>
    -- There is no message of the target, so nothing is changed on either side.
    rw [hsound.positions, List.findIdx?_eq_none_iff] at hposition
    have hother : ∀ m ∈ h.messages, m.eventId ≠ target := by
      intro m hm
      simpa using hposition m.eventId (List.mem_map_of_mem hm)
    have hsame : (h.messages.map fun m =>
        if m.eventId = target then { m with content := body } else m) = h.messages := by
      refine Eq.trans (List.map_congr_left fun m hm => ?_) (List.map_id h.messages)
      exact if_neg (hother m hm)
    dsimp only
    rw [hsame]

/-- An edit changes the message of its target, and no other. -/
theorem message?_step_edited (hsound : h.Sound) (roomId target body id : String) :
    (h.step names (.messageEdited roomId target body)).message? id =
      if id = target then (h.message? id).map fun m => { m with content := body }
      else h.message? id := by
  have hfind : (h.step names (.messageEdited roomId target body)).message? id =
      (h.message? id).map fun m =>
        if m.eventId = target then { m with content := body } else m := by
    rw [step_edited hsound, message?, List.find?_map]
    -- An edit does not change the id by which a message is looked up.
    have hpred : ((fun m : RoomMessage => decide (m.eventId = id)) ∘ fun m : RoomMessage =>
        if m.eventId = target then { m with content := body } else m) =
          fun m => decide (m.eventId = id) := by
      funext m
      dsimp only [Function.comp]
      split <;> rfl
    rw [hpred]
    rfl
  rw [hfind]
  cases hm : h.message? id with
  | none => split <;> rfl
  | some m =>
    have hid : m.eventId = id := by simpa using List.find?_some hm
    subst hid
    rw [Option.map_some]
    split <;> rfl

/-- Whatever is read off an element before it is modified at a position can be modified there
instead. -/
theorem map_modify {α β : Type} {f : α → α} {g : β → β} {k : α → β} {xs : List α} {i : Nat}
    (h : ∀ a, k (f a) = g (k a)) : (xs.modify i f).map k = (xs.map k).modify i g := by
  induction xs generalizing i with
  | nil => simp
  | cons x xs ih => cases i <;> simp [h, ih]

/-- Reading an edit adds no message. -/
theorem ids_step_edited (roomId target body : String) :
    (h.step names (.messageEdited roomId target body)).ids = h.ids := by
  rw [step]
  split
  · -- What changes of a message is its content.
    exact (map_modify (k := RoomMessage.eventId) fun _ => rfl).trans (List.modify_id _ _)
  · rfl

/-- An edit keeps the table in order. -/
theorem Sound.step_edited (hsound : h.Sound) (roomId target body : String) :
    (h.step names (.messageEdited roomId target body)).Sound := by
  constructor
  · rw [ids_step_edited]
    exact hsound.nodup
  · intro id
    rw [ids_step_edited, History.step_edited hsound]
    exact hsound.positions id

end History

/-! ## The snapshot from the database -/

/-- The event of a stored message is a message of its room and has its id. -/
theorem StoredMessage.fields_of_event? {row : StoredMessage} {event : RoomEvent}
    (h : row.event? = some event) :
    event.type = "m.room.message" ∧ event.roomId = row.roomId ∧
      event.eventId = some row.eventId := by
  unfold StoredMessage.event? at h
  simp only [Option.bind_eq_bind, Option.bind_eq_some_iff] at h
  obtain ⟨value, -, members, -, sender, -, h⟩ := h
  cases h
  exact ⟨rfl, rfl, rfl⟩

/-- The row of a stored message. -/
def StoredMessage.row (m : StoredMessage) : Database.Row :=
  [.text m.eventId, .text m.roomId, .text m.json]

/-- The row of a member's name. -/
def MemberName.row (m : MemberName) : Database.Row :=
  [.text m.roomId, .text m.userId, (m.displayName.map Database.Cell.text).getD .null]

namespace Database

/-- A stored message is read back from its row. -/
theorem storedMessage?_row (m : StoredMessage) : storedMessage? m.row = some m := rfl

theorem memberName?_row (m : MemberName) : memberName? m.row = some m := by
  obtain ⟨roomId, userId, displayName⟩ := m
  cases displayName <;> rfl

/-- Rows that are read back one by one are read back all together. -/
private theorem mapM_readRow {α : Type} {read : Row → Option α} {row : α → Row}
    (hread : ∀ a, read (row a) = some a) (xs : List α) :
    (xs.map row).mapM (readRow read) = Except.ok xs := by
  induction xs with
  | nil => rfl
  | cons x xs ih => simp [readRow, hread, ih]; rfl

/-- Queries after queries go on with the replies that are left. -/
theorem runAgainst_bind {α β : Type} (x : Attempt α) (f : α → Attempt β) (server : Server) :
    runAgainst (x >>= f) server =
      match runAgainst x server with
      | (.ok a, server) => runAgainst (f a) server
      | (.error e, server) => (.error e, server) := by
  unfold runAgainst
  rw [ExceptT.run_bind, Course.run_bind]
  dsimp only
  cases (x.run.run Server.handler server).value with
  | ok a => rfl
  | error e => rfl

/-- Rows in the form that is read back are what a query for all rows answers. -/
theorem runAgainst_all {α : Type} {read : Row → Option α} {row : α → Row}
    (hread : ∀ a, read (row a) = some a) (query : Query) (xs : List α) (replies : List Reply)
    (received : List Query) :
    runAgainst (all read query) ⟨.ok (.rows (xs.map row) :: replies), received⟩ =
      (.ok xs, ⟨.ok replies, received ++ [query]⟩) := by
  have hrows : runAgainst (rows query) ⟨.ok (.rows (xs.map row) :: replies), received⟩ =
      (.ok (xs.map row), ⟨.ok replies, received ++ [query]⟩) := rfl
  rw [all, runAgainst_bind, hrows]
  dsimp only
  rw [mapM_readRow hread]
  rfl

/-- The snapshot of the current messages is the history of the rows that the database gives: what
can be read of the stored messages, with the names of the members. -/
theorem runAgainst_clearRoomMessages (stored : List StoredMessage) (names : List MemberName) :
    (runAgainst clearRoomMessages
      (.ofReplies [.rows (stored.map StoredMessage.row), .rows (names.map MemberName.row)])).1 =
      .ok (History.currentMessages (stored.filterMap StoredMessage.change?) names) := by
  rw [clearRoomMessages, runAgainst_bind, storedMessages, Server.ofReplies,
    runAgainst_all storedMessage?_row]
  dsimp only
  by_cases hchanges : stored.filterMap StoredMessage.change? = []
  · -- Nobody's name is asked for where nothing was sent.
    rw [hchanges]
    rfl
  · have hrooms : (stored.filterMap StoredMessage.change?).map Change.roomId ≠ [] :=
      fun hnil => hchanges (List.map_eq_nil_iff.1 hnil)
    have hempty := mt List.isEmpty_iff.1 (mt sortedDistinct_eq_nil_iff.1 hrooms)
    rw [runAgainst_bind, memberNames, if_neg hempty, runAgainst_all memberName?_row]
    rfl

end Database

end ChatIndex
