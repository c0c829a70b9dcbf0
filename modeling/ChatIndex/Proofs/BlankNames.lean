import ChatIndex.Proofs.Effects
import ChatIndex.Proofs.Rerun
import Mathlib.Data.List.Nodup

/-!
# Rooms with a blank name

A name of nothing but white space is no name.  Two ways into the rooms index know that: an event
that gives a room such a name is taken for one that takes the name away, and a message brings its
room along only if the room has a name with some other character.  The third way is the restore,
which gets the named rooms from the read model; there every name counts that is not empty.

* `documents_rooms_of_run`        a restore writes all the rooms that it is given
* `documents_rooms_of_lists`      events for one room each leave those that they list
* `restored_rooms_agree_iff`      the three rooms indices, and when they are the same
-/

namespace ChatIndex

/-- A text is a name just if something is left of it when it is trimmed. -/
theorem isName_iff {name : String} : isName name = true ↔ Text.trim name ≠ "" := by
  rw [isName, Bool.not_eq_true', ← Bool.not_eq_true, ← Text.trim_eq_empty_iff]

/-! ## The restore -/

namespace Bootstrap

open Attempt

variable {reads : Answers}

/-- A restore into an engine without indices leaves all the rooms that the read model lists in the
rooms index, whatever becomes of the messages. -/
theorem documents_rooms_of_run {names : IndexNames} {rooms : List RoomName} {m : Memory}
    (batchSize : Nat) (hnames : names.rooms ≠ names.messages)
    (hrooms : reads .clearRoomNames = .ok rooms) (hdistinct : (rooms.map (·.roomId)).Nodup)
    (hindices : m.indices = .empty) (hrefused : m.refused = []) (hseed : m.preseed = .empty) :
    (against reads (run batchSize names) m).2.documents names.rooms =
      Index.written .empty (rooms.map roomEntry) := by
  have hmissing : m.indices.get? names.rooms = none := by rw [hindices, KeyMap.get?_empty]
  have hnodup : ((rooms.map roomEntry).map (·.id)).Nodup := by
    rw [List.map_map]
    exact hdistinct
  obtain ⟨m₁, hrun₁, hdocuments, -⟩ := against_filling hrooms hnodup hmissing hrefused hseed
  have hrun₁ : against reads (ensureRooms batchSize names) m =
      (.ok (some (rooms.map roomEntry).length), m₁) := hrun₁
  obtain ⟨r, m₂, hrun₂⟩ : ∃ r m₂, against reads (ensureMessages batchSize names) m₁ = (r, m₂) :=
    ⟨_, _, rfl⟩
  have hstate : (against reads (run batchSize names) m).2 = m₂ := by
    rw [run, against_bind, hrun₁]
    dsimp only
    rw [against_bind, hrun₂]
    cases r <;> rfl
  -- Filling the messages index, however far it gets, leaves the rooms index as it is.
  obtain ⟨es, ls, hends, hsteps⟩ := exists_ends_of_against hrun₂
  have hkept := hsteps.get?_indices ((filling_of_ends hends).leaves hnames)
  rw [hstate, Memory.documents, hkept]
  exact hdocuments

end Bootstrap

/-! ## The events -/

section Events

variable {s : SyncSettings} {m : Memory} {row : RoomName} {rows : List RoomName} {d : Delivery}
  {ds : List Delivery}

/-- Whether a delivery gives a clear room its name. -/
structure Delivery.Names (row : RoomName) (d : Delivery) : Prop where
  type : d.event.type = "m.room.name"
  roomId : d.event.roomId = row.roomId
  name : d.event.content.getString? "name" = some row.name
  clear : d.reads.isClear row.roomId = true

/-- Whether a delivery is a message, and one that may be written, of a room that the read model
knows by its name. -/
structure Delivery.Speaks (row : RoomName) (d : Delivery) : Prop where
  sent : ∃ id sender body,
    d.event.change? = .ok (some (.messageSent row.roomId id sender body)) ∧
      (d.reads.message? row.roomId id sender body).isSome
  named : ∃ room : RoomDetail, d.reads (.roomDetail row.roomId) = .ok room ∧
    room.name = some row.name

/-- Whether a delivery writes a room that is not in the rooms index if it has a name, and does
nothing else to that index. -/
def Delivery.Lists (s : SyncSettings) (row : RoomName) (d : Delivery) : Prop :=
  ∀ m : Memory, m.refused = [] → m.document? s.indices.rooms row.roomId = none →
    (deliver s m d).documents s.indices.rooms =
      if isName row.name then
        (m.documents s.indices.rooms).insert row.roomId (Bootstrap.roomEntry row).fields
      else m.documents s.indices.rooms

/-- An event that gives a room a blank name removes a document that is not there. -/
theorem Delivery.Names.lists (hnames : s.indices.rooms ≠ s.indices.messages)
    (h : d.Names row) : d.Lists s row := by
  intro m hrefused hnone
  -- A blank name is read as no name.
  have hchange : d.event.change? = .ok (some
      (.roomNameChanged row.roomId (if isName row.name then some row.name else none))) := by
    simp [RoomEvent.change?, h.type, h.name, h.roomId, isName, Option.filter]
  refine KeyMap.ext_get? fun id => ?_
  -- The effect of the event on one document tells what becomes of the index.
  have hevent := document?_deliver_rooms (s := s) (m := m) (d := d) hnames id
  rw [RoomEvent.roomEffect, hchange, hrefused] at hevent
  refine hevent.trans ?_
  by_cases hid : id = row.roomId
  · rw [Memory.document?] at hnone
    cases hname : isName row.name <;>
      simp [Change.roomEffect, hid, h.clear, RoomEffect.act, KeyMap.get?_insert, hnone,
        Bootstrap.roomEntry]
  · -- Other rooms are not touched, whether the room is written or removed.
    cases hname : isName row.name <;>
      simp [Change.roomEffect, hid, RoomEffect.act, KeyMap.get?_insert, Memory.document?]

/-- A message fills the gap in the rooms index, if its room has a name. -/
theorem Delivery.Speaks.lists (hnames : s.indices.rooms ≠ s.indices.messages)
    (h : d.Speaks row) : d.Lists s row := by
  intro m hrefused hnone
  obtain ⟨eventId, sender, body, hchange, hwritten⟩ := h.sent
  obtain ⟨room, hroom, hname⟩ := h.named
  refine KeyMap.ext_get? fun id => ?_
  have hevent := document?_deliver_rooms (s := s) (m := m) (d := d) hnames id
  rw [RoomEvent.roomEffect, hchange, hrefused] at hevent
  refine hevent.trans ?_
  by_cases hid : id = row.roomId
  · -- The gap is filled from the read model, whose name may be blank.
    have hknown := Sync.roomDocument?_of_ok hroom
    rw [hname, Option.filter_some] at hknown
    rw [Memory.document?] at hnone
    cases hnamed : isName row.name <;>
      simp [Change.roomEffect, hid, hwritten, RoomEffect.act, Memory.document?, KeyMap.get?_insert,
        hnone, hknown, hnamed, Bootstrap.roomEntry]
  · cases hnamed : isName row.name <;>
      simp [Change.roomEffect, hid, RoomEffect.act, KeyMap.get?_insert, Memory.document?]

/-- Deliveries that list one room each write the rooms that have a name. -/
theorem documents_rooms_of_lists {delivery : RoomName → Delivery}
    (hlists : ∀ row ∈ rows, (delivery row).Lists s row)
    (hdistinct : (rows.map (·.roomId)).Nodup) (hrefused : m.refused = [])
    (hnone : ∀ row ∈ rows, m.document? s.indices.rooms row.roomId = none) :
    ((rows.map delivery).foldl (deliver s) m).documents s.indices.rooms =
      (m.documents s.indices.rooms).written
        ((rows.filter (isName ·.name)).map Bootstrap.roomEntry) := by
  induction rows generalizing m with
  | nil => rfl
  | cons row rows ih =>
    obtain ⟨hrow, hlists'⟩ := List.forall_mem_cons.1 hlists
    obtain ⟨hfirst, hnone'⟩ := List.forall_mem_cons.1 hnone
    obtain ⟨hnew, hdistinct'⟩ := List.nodup_cons.1 hdistinct
    -- The room of the first delivery has no document yet.
    have hstep := hrow m hrefused hfirst
    -- The rooms that are still to come are other ones, so they are not listed yet.
    have hothers : ∀ other ∈ rows,
        (deliver s m (delivery row)).document? s.indices.rooms other.roomId = none := by
      intro other hother
      have hne : other.roomId ≠ row.roomId := fun heq =>
        hnew (List.mem_map.2 ⟨other, hother, heq⟩)
      rw [Memory.document?, hstep]
      split
      · rw [KeyMap.get?_insert, if_neg hne]
        exact hnone' other hother
      · exact hnone' other hother
    have hrest := ih hlists' hdistinct' ((refused_deliver _ _ _).trans hrefused) hothers
    rw [List.map_cons, List.foldl_cons, hrest, hstep]
    -- A row that is not written is not among the rows to write either.
    cases hname : isName row.name with
    | true =>
      rw [List.filter_cons_of_pos (by simpa using hname)]
      rfl
    | false =>
      rw [List.filter_cons_of_neg (by simpa using hname)]
      rfl

end Events

/-! ## The three indices -/

/-- The rooms index holds a document for each room that was written, and for no other. -/
theorem exists_get?_written_rooms_iff {rows : List RoomName} {id : String}
    (hdistinct : (rows.map (·.roomId)).Nodup) :
    (∃ d, (Index.written .empty (rows.map Bootstrap.roomEntry)).get? id = some d) ↔
      ∃ row ∈ rows, row.roomId = id := by
  have hnodup : ((rows.map Bootstrap.roomEntry).map (·.id)).Nodup := by
    rw [List.map_map]
    exact hdistinct
  rw [Index.get?_written hnodup, KeyMap.get?_empty, Option.or_none]
  simp only [← Option.isSome_iff_exists, Option.isSome_map, List.find?_isSome]
  simp [Bootstrap.roomEntry]

/-- Leaving rooms out makes a difference to what is written as soon as there is one to leave out. -/
theorem written_rooms_eq_written_filter_iff {rows : List RoomName} {p : RoomName → Bool}
    (hdistinct : (rows.map (·.roomId)).Nodup) :
    Index.written .empty (rows.map Bootstrap.roomEntry) =
        Index.written .empty ((rows.filter p).map Bootstrap.roomEntry) ↔
      ∀ row ∈ rows, p row = true := by
  constructor
  · intro hsame row hrow
    -- The room has a document in the first index, so it is one of those that are not left out.
    have hdistinct' : ((rows.filter p).map (·.roomId)).Nodup :=
      hdistinct.sublist (List.filter_sublist.map _)
    obtain ⟨d, hd⟩ := (exists_get?_written_rooms_iff hdistinct).2 ⟨row, hrow, rfl⟩
    rw [hsame] at hd
    obtain ⟨row', hrow', hid⟩ := (exists_get?_written_rooms_iff hdistinct').1 ⟨d, hd⟩
    obtain ⟨hmem, hkept⟩ := List.mem_filter.1 hrow'
    have heq : row' = row := List.inj_on_of_nodup_map hdistinct hmem hrow hid
    exact heq ▸ hkept
  · intro hall
    rw [List.filter_eq_self.2 hall]

/-- A restore writes every room of the list from the read model.  Handling an event for each of
the rooms that gives it its name, or a message of each of them, writes those whose name is not
blank.  So the indices are the same just if no name is blank. -/
theorem restored_rooms_agree_iff {s : SyncSettings} {rows : List RoomName} {reads : Answers}
    {m₀ m₁ : Memory} {naming speaking : RoomName → Delivery} (batchSize : Nat)
    (hnames : s.indices.rooms ≠ s.indices.messages) (hrows : reads .clearRoomNames = .ok rows)
    (hdistinct : (rows.map (·.roomId)).Nodup) (hindices : m₀.indices = .empty)
    (hseed : m₀.preseed = .empty) (hrefused₀ : m₀.refused = [])
    (hempty : m₁.documents s.indices.rooms = .empty) (hrefused₁ : m₁.refused = [])
    (hnaming : ∀ row ∈ rows, (naming row).Names row)
    (hspeaking : ∀ row ∈ rows, (speaking row).Speaks row) :
    let restored := (Attempt.against reads (Bootstrap.run batchSize s.indices) m₀).2
    let named := (rows.map naming).foldl (deliver s) m₁
    let spoken := (rows.map speaking).foldl (deliver s) m₁
    let listed := Index.written .empty
      ((rows.filter (Text.trim ·.name ≠ "")).map Bootstrap.roomEntry)
    restored.documents s.indices.rooms = Index.written .empty (rows.map Bootstrap.roomEntry) ∧
      named.documents s.indices.rooms = listed ∧ spoken.documents s.indices.rooms = listed ∧
      (restored.documents s.indices.rooms = listed ↔ ∀ row ∈ rows, Text.trim row.name ≠ "") := by
  intro restored named spoken listed
  have hrestored : restored.documents s.indices.rooms =
      Index.written .empty (rows.map Bootstrap.roomEntry) :=
    Bootstrap.documents_rooms_of_run batchSize hnames hrows hdistinct hindices hrefused₀ hseed
  have hnone : ∀ row ∈ rows, m₁.document? s.indices.rooms row.roomId = none := by
    intro row _
    rw [Memory.document?, hempty, KeyMap.get?_empty]
  -- The two ways to say that a name is not blank.
  have htrim : rows.filter (Text.trim ·.name ≠ "") = rows.filter (isName ·.name) := by
    refine List.filter_congr fun row _ => ?_
    rw [Bool.eq_iff_iff, decide_eq_true_iff, isName_iff]
  have hlisted : ∀ delivery : RoomName → Delivery, (∀ row ∈ rows, (delivery row).Lists s row) →
      ((rows.map delivery).foldl (deliver s) m₁).documents s.indices.rooms = listed := by
    intro delivery hlists
    rw [documents_rooms_of_lists hlists hdistinct hrefused₁ hnone, hempty, ← htrim]
  refine ⟨hrestored, hlisted naming fun row hrow => (hnaming row hrow).lists hnames,
    hlisted speaking fun row hrow => (hspeaking row hrow).lists hnames, ?_⟩
  rw [hrestored, written_rooms_eq_written_filter_iff hdistinct]
  simp only [decide_eq_true_iff]

/-! ### A room with a name and one without -/

namespace Nameless

/-- What the read model lists: the second name is not empty, but there is nothing to see of it. -/
def rows : List RoomName :=
  [⟨"!r", "plans"⟩, ⟨"!s", " "⟩]

/-- A read model with these two clear rooms, and no messages. -/
def reads : Answers
  | .clearRoomNames => .ok rows
  | .clearRoomMessages => .ok []
  | .roomDetail roomId =>
    .ok { (default : RoomDetail) with
      roomId, name := (rows.find? (·.roomId = roomId)).map (·.name) }
  | .displayName .. => .ok none
  | .isRedacted _ => .ok false
  | _ => .error (.database "not asked")

/-- The event that gives a room its name. -/
def naming (row : RoomName) : Delivery :=
  ⟨{ (default : RoomEvent) with
      type := "m.room.name", roomId := row.roomId
      content := .ofMembers [("name", .string row.name)] }, reads⟩

/-- A message of a room. -/
def speaking (row : RoomName) : Delivery :=
  ⟨{ (default : RoomEvent) with
      type := "m.room.message", roomId := row.roomId, sender := "@ann", eventId := some "$1"
      content := .ofMembers [("body", .string "see you at six")] }, reads⟩

/-- The naming events name the rooms of the list. -/
theorem names_naming : ∀ row ∈ rows, (naming row).Names row :=
  fun _ _ => ⟨rfl, rfl, rfl, rfl⟩

/-- The messages are such that their rooms are written along with them. -/
theorem speaks_speaking : ∀ row ∈ rows, (speaking row).Speaks row := by
  intro row hrow
  refine ⟨⟨"$1", "@ann", "see you at six", rfl, rfl⟩, ?_⟩
  simp only [rows, List.mem_cons, List.not_mem_nil, or_false] at hrow
  obtain rfl | rfl := hrow <;> exact ⟨_, rfl, rfl⟩

end Nameless

/-- The theorem at the two rooms: the events agree with each other and not with the restore. -/
theorem restored_rooms_agree_iff_nameless :
    let names := SyncSettings.plain.indices
    let restored := (Attempt.against Nameless.reads (Bootstrap.run 10 names) .empty).2
    let named := (Nameless.rows.map Nameless.naming).foldl (deliver .plain) .empty
    let spoken := (Nameless.rows.map Nameless.speaking).foldl (deliver .plain) .empty
    named.documents names.rooms = spoken.documents names.rooms ∧
      restored.documents names.rooms ≠ named.documents names.rooms := by
  intro names restored named spoken
  have hnames : names.rooms ≠ names.messages := by decide
  have hdistinct : (Nameless.rows.map (·.roomId)).Nodup := by decide
  have hrows : Nameless.reads .clearRoomNames = .ok Nameless.rows := rfl
  have hindices : Memory.empty.indices = .empty := rfl
  have hempty : Memory.empty.documents names.rooms = .empty := rfl
  obtain ⟨-, hnamed, hspoken, hsame⟩ := restored_rooms_agree_iff 10 hnames hrows hdistinct hindices
    rfl rfl hempty rfl Nameless.names_naming Nameless.speaks_speaking
  -- If the restore agreed, no name of the list would be blank.
  refine ⟨hnamed.trans hspoken.symm, fun heq => ?_⟩
  have hall := hsame.1 (heq.trans hnamed)
  exact hall ⟨"!s", " "⟩ (by decide) (Text.trim_eq_empty_iff.2 (by decide))

/-- A restore lists a room whose name is blank, and the events of the same room do not. -/
theorem blank_name_restored :
    let names : IndexNames := ⟨"rooms", "messages", "mails"⟩
    let restored := (Attempt.against Nameless.reads (Bootstrap.run 10 names) .empty).2
    let named := (Nameless.rows.map Nameless.naming).foldl (deliver .plain) .empty
    let spoken := (Nameless.rows.map Nameless.speaking).foldl (deliver .plain) .empty
    restored.document? "rooms" "!s" = some (RoomDocument.toDocument ⟨"!s", " "⟩) ∧
      named.document? "rooms" "!s" = none ∧ spoken.document? "rooms" "!s" = none := by
  decide +kernel

end ChatIndex
