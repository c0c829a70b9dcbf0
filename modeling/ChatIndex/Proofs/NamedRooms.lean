import ChatIndex.Proofs.Effects
import ChatIndex.Proofs.Preservation
import ChatIndex.Proofs.Privacy
import Mathlib.Logic.Relation

/-!
# The rooms index is the clear and named rooms

The read model and the engine change together: a room gets a new name, loses it or is encrypted
and its event is handled, other events are handled, and restores are run.  After each such step
the document of a room is the one that the read model would have it have, which is none where the
room is encrypted or has no name.

A rename takes the name from the event and a message takes it from the read model, so the two have
to agree; an encrypted room may still be renamed, and then nothing is written.

* `Scene.Step.mirrors`           one step keeps the rooms index in line with the read model
* `rooms_index_is_clear_named`   and so does any number of them
-/

namespace ChatIndex

/-! ## Rooms of the read model -/

namespace Answers

/-- The document that the rooms index should hold for a room: one for a clear room that has a
name. -/
def listed? (reads : Answers) (roomId : String) : Option Document :=
  if reads.isClear roomId then reads.roomDocument? roomId else none

/-- Whether a read model knows the same rooms as another one, with one room changed. -/
def Updates (reads reads' : Answers) (roomId : String) (f : RoomDetail → RoomDetail) : Prop :=
  ∀ id, reads' (.roomDetail id) =
    if id = roomId then Except.map f (reads (.roomDetail id)) else reads (.roomDetail id)

/-- Whether two read models know the same rooms. -/
def SameRooms (reads reads' : Answers) : Prop :=
  ∀ id, reads' (.roomDetail id) = reads (.roomDetail id)

variable {reads reads' : Answers} {roomId : String}

/-- Whether a room is to be listed is told by its own row alone. -/
theorem listed?_congr {id : String} (h : reads' (.roomDetail id) = reads (.roomDetail id)) :
    reads'.listed? id = reads.listed? id := by
  unfold listed? isClear roomDocument?
  rw [h]

/-- Which rooms are to be listed is told by their rows. -/
theorem listed?_eq_some_iff {d : Document} :
    reads.listed? roomId = some d ↔
      ∃ room name, reads (.roomDetail roomId) = .ok room ∧ RoomDetail.isClear room = true ∧
        RoomDetail.name room = some name ∧ isName name = true ∧
        d = RoomDocument.toDocument ⟨roomId, name⟩ := by
  unfold listed?
  constructor
  · intro h
    -- The document is there for a clear room only, and it is made of the name in the row.
    obtain ⟨hclear, h⟩ := Option.ite_none_right_eq_some.1 h
    obtain ⟨room, hroom, hclear⟩ := Sync.isClear_eq_true_iff.1 hclear
    rw [Sync.roomDocument?_of_ok hroom, Option.map_eq_some_iff] at h
    obtain ⟨name, hname, rfl⟩ := h
    obtain ⟨hname, hnamed⟩ := Option.filter_eq_some_iff.1 hname
    exact ⟨room, name, hroom, hclear, hname, hnamed, rfl⟩
  · rintro ⟨room, name, hroom, hclear, hname, hnamed, rfl⟩
    rw [Sync.isClear_of_ok hroom, Sync.roomDocument?_of_ok hroom, if_pos hclear, hname]
    exact Option.map_eq_some_iff.2 ⟨name, Option.filter_eq_some_iff.2 ⟨rfl, hnamed⟩, rfl⟩

/-- A new name does not make a room clear or encrypted. -/
theorem Updates.isClear_name {name : Option String}
    (h : reads.Updates reads' roomId fun room => { room with name }) :
    reads'.isClear roomId = reads.isClear roomId := by
  have hroom := h roomId
  rw [if_pos rfl] at hroom
  unfold isClear
  rw [hroom]
  cases reads (.roomDetail roomId) <;> rfl

/-- A room that was renamed is to be listed under its new name. -/
theorem Updates.listed?_name {name : Option String}
    (h : reads.Updates reads' roomId fun room => { room with name }) :
    reads'.listed? roomId =
      if reads'.isClear roomId then
        (name.filter isName).map fun name => RoomDocument.toDocument ⟨roomId, name⟩
      else none := by
  unfold listed?
  split
  · next hclear =>
    rw [h.isClear_name] at hclear
    obtain ⟨room, hread, -⟩ := Sync.isClear_eq_true_iff.1 hclear
    have hroom := h roomId
    rw [if_pos rfl, hread] at hroom
    exact Sync.roomDocument?_of_ok hroom
  · rfl

/-- A room that was encrypted is not to be listed. -/
theorem Updates.listed?_encryption {algorithm : String}
    (h : reads.Updates reads' roomId fun room => { room with encryption := some algorithm }) :
    reads'.listed? roomId = none := by
  have hroom := h roomId
  rw [if_pos rfl] at hroom
  unfold listed? isClear
  rw [hroom]
  cases reads (.roomDetail roomId) <;> rfl

end Answers

/-! ## Events -/

namespace RoomEvent

variable {event : RoomEvent}

/-- An event of any other type neither renames nor encrypts a room. -/
theorem ne_of_change?_of_type_ne {c : Change} (hname : event.type ≠ "m.room.name")
    (hencryption : event.type ≠ "m.room.encryption") (h : event.change? = .ok (some c)) :
    (∀ roomId name, c ≠ .roomNameChanged roomId name) ∧
      ∀ roomId algorithm, c ≠ .roomEncrypted roomId algorithm := by
  unfold change? at h
  rw [if_neg hname, if_neg hencryption] at h
  -- Messages are left, which may be edits, then redactions and members, and types unknown.
  split at h
  · split at h
    · unfold editChange at h
      dsimp only at h
      split at h <;> cases h
      simp
    · unfold messageChange? at h
      split at h <;> cases h
      simp
  · split at h
    · unfold redactionChange at h
      split at h
      · split at h <;> cases h
        simp
      · cases h
    · split at h
      · unfold memberChange? at h
        dsimp only at h
        split at h
        · split at h <;> cases h
          simp
        · cases h
      · cases h

/-- All that an event of any other type does to the document of a room is to fill the gap of a
clear one. -/
theorem roomEffect_of_type_ne (reads : Answers) (refused : List String)
    (hname : event.type ≠ "m.room.name") (hencryption : event.type ≠ "m.room.encryption")
    (id : String) :
    event.roomEffect reads refused id = .keep ∨
      event.roomEffect reads refused id = .fill ∧ reads.isClear id = true := by
  unfold roomEffect
  split
  · next c hchange =>
    obtain ⟨hrename, hencrypt⟩ := ne_of_change?_of_type_ne hname hencryption hchange
    cases c with
    | roomNameChanged roomId name => exact absurd rfl (hrename roomId name)
    | roomEncrypted roomId algorithm => exact absurd rfl (hencrypt roomId algorithm)
    | messageSent roomId eventId sender body =>
      dsimp only [Change.roomEffect]
      split
      · next hfill =>
        obtain ⟨rfl, hmessage, -⟩ := hfill
        obtain ⟨message, hmessage⟩ := Option.isSome_iff_exists.1 hmessage
        obtain ⟨displayName, room, -, -, hroom, hclear, -⟩ :=
          Sync.message?_eq_some_iff.1 hmessage
        exact .inr ⟨rfl, Sync.isClear_eq_true_iff.2 ⟨room, hroom, hclear⟩⟩
      · exact .inl rfl
    | messageEdited | messageRedacted | displayNameChanged => exact .inl rfl
  · exact .inl rfl

end RoomEvent

/-! ## Steps -/

/-- The read model, with what it answers at the moment, and the engine. -/
structure Scene where
  reads : Answers
  memory : Memory

namespace Scene

/-- A room is renamed or encrypted in the read model and its event is handled, another event is
handled, or a restore is run.  What the read model says of anything but rooms may change all the
time. -/
inductive Step (s : SyncSettings) : Scene → Scene → Prop
  | rename {reads reads' : Answers} (m : Memory) (event : RoomEvent)
      (htype : event.type = "m.room.name")
      (hrooms : reads.Updates reads' event.roomId fun room =>
        { room with name := event.content.getString? "name" }) :
      Step s ⟨reads, m⟩ ⟨reads', deliver s m ⟨event, reads'⟩⟩
  | encrypt {reads reads' : Answers} (m : Memory) (event : RoomEvent) (algorithm : String)
      (htype : event.type = "m.room.encryption")
      (halgorithm : event.content.getString? "algorithm" = some algorithm)
      (hrooms : reads.Updates reads' event.roomId fun room =>
        { room with encryption := some algorithm }) :
      Step s ⟨reads, m⟩ ⟨reads', deliver s m ⟨event, reads'⟩⟩
  | other {reads reads' : Answers} (m : Memory) (event : RoomEvent)
      (hname : event.type ≠ "m.room.name") (hencryption : event.type ≠ "m.room.encryption")
      (hrooms : reads.SameRooms reads') :
      Step s ⟨reads, m⟩ ⟨reads', deliver s m ⟨event, reads'⟩⟩
  | restore {reads reads' : Answers} (m : Memory) (batchSize : Nat)
      (hrooms : reads.SameRooms reads') :
      Step s ⟨reads, m⟩ ⟨reads', (Attempt.against reads' (Bootstrap.run batchSize s.indices) m).2⟩

/-- Both indices are there, and the rooms index holds just what it should. -/
structure Mirrors (s : SyncSettings) (x : Scene) : Prop where
  refused : x.memory.refused = []
  rooms : x.memory.indices.contains s.indices.rooms = true
  messages : x.memory.indices.contains s.indices.messages = true
  listed : ∀ id, x.memory.document? s.indices.rooms id = x.reads.listed? id

variable {s : SyncSettings} {x x' : Scene}

/-- An event keeps the rooms index in line if it does to each document what the read model has
undergone. -/
private theorem Mirrors.after_event {reads' : Answers} {event : RoomEvent}
    (hnames : s.indices.rooms ≠ s.indices.messages) (h : x.Mirrors s)
    (heffect : ∀ id, (event.roomEffect reads' [] id).act (reads'.roomDocument? id)
      (x.reads.listed? id) = reads'.listed? id) :
    Mirrors s ⟨reads', deliver s x.memory ⟨event, reads'⟩⟩ := by
  have hsteps : x.memory.Steps _ (deliver s x.memory ⟨event, reads'⟩) :=
    Memory.steps_exchanges (Sync.handle s event) x.memory
  -- No event takes an index away, so only the documents are left to compare.
  refine ⟨(refused_deliver s _ _).trans h.refused, hsteps.contains h.rooms,
    hsteps.contains h.messages, fun id => ?_⟩
  rw [document?_deliver_rooms hnames, h.refused, h.listed]
  exact heffect id

/-- A step keeps the rooms index in line with the read model. -/
theorem Step.mirrors (hnames : s.indices.rooms ≠ s.indices.messages) (hstep : Step s x x')
    (h : x.Mirrors s) : x'.Mirrors s := by
  cases hstep with
  | @rename reads reads' m event htype hrooms =>
    refine h.after_event hnames fun id => ?_
    have hchange : event.change? = .ok (some (.roomNameChanged event.roomId
        ((event.content.getString? "name").filter isName))) := by
      rw [RoomEvent.change?, if_pos htype]
      rfl
    rw [RoomEvent.roomEffect, hchange]
    dsimp only [Change.roomEffect]
    by_cases hid : id = event.roomId
    · rw [hid, hrooms.listed?_name]
      by_cases hclear : reads'.isClear event.roomId = true
      · -- The name in the event is the name that the read model has now.
        rw [if_pos ⟨rfl, hclear⟩, if_pos hclear]
        cases (event.content.getString? "name").filter isName <;> rfl
      · -- An encrypted room that is renamed was not listed before.
        rw [if_neg fun hboth => hclear hboth.2, if_neg hclear]
        rw [hrooms.isClear_name] at hclear
        exact if_neg hclear
    · rw [if_neg fun hboth => hid hboth.1]
      exact (Answers.listed?_congr ((hrooms id).trans (if_neg hid))).symm
  | @encrypt reads reads' m event algorithm htype halgorithm hrooms =>
    refine h.after_event hnames fun id => ?_
    have hchange : event.change? = .ok (some (.roomEncrypted event.roomId algorithm)) := by
      rw [RoomEvent.change?, if_neg (by rw [htype]; decide), if_pos htype, halgorithm]
      rfl
    rw [RoomEvent.roomEffect, hchange]
    dsimp only [Change.roomEffect]
    by_cases hid : id = event.roomId
    · -- Whatever its name, the room is not to be listed any more, and its document is removed.
      rw [hid, if_pos rfl, hrooms.listed?_encryption]
      rfl
    · rw [if_neg hid]
      exact (Answers.listed?_congr ((hrooms id).trans (if_neg hid))).symm
  | @other reads reads' m event hname hencryption hrooms =>
    refine h.after_event hnames fun id => ?_
    have hlisted := Answers.listed?_congr (hrooms id)
    obtain hkeep | ⟨hfill, hclear⟩ :=
      RoomEvent.roomEffect_of_type_ne reads' [] hname hencryption id
    · rw [hkeep, ← hlisted]
      rfl
    · -- What the gap is filled with is what a clear room should have.
      have hknown : reads'.listed? id = reads'.roomDocument? id := if_pos hclear
      rw [hfill, ← hlisted, hknown]
      exact Option.or_self
  | @restore reads reads' m batchSize hrooms =>
    -- Both indices are there, so the run writes nothing.
    obtain ⟨hrun, -⟩ := Bootstrap.run_of_present batchSize reads' h.rooms h.messages
    rw [hrun]
    exact ⟨h.refused, h.rooms, h.messages, fun id =>
      (h.listed id).trans (Answers.listed?_congr (hrooms id)).symm⟩

/-- Any number of steps keep the rooms index in line with the read model. -/
theorem Mirrors.after (hnames : s.indices.rooms ≠ s.indices.messages) (h : x.Mirrors s)
    (hrun : Relation.ReflTransGen (Step s) x x') : x'.Mirrors s := by
  induction hrun with
  | refl => exact h
  | tail _ hstep ih => exact hstep.mirrors hnames ih

/-- An empty rooms index is in line with a read model that knows no names. -/
theorem mirrors_of_unnamed (hrefused : x.memory.refused = [])
    (hrooms : x.memory.indices.get? s.indices.rooms = some .empty)
    (hmessages : x.memory.indices.contains s.indices.messages = true)
    (hunnamed : ∀ id room, x.reads (.roomDetail id) = .ok room → RoomDetail.name room = none) :
    x.Mirrors s := by
  refine ⟨hrefused, ?_, hmessages, fun id => ?_⟩
  · rw [KeyMap.contains, hrooms]
    rfl
  · -- A room that is to be listed would have a name.
    rw [Memory.document?, Memory.documents_of_get?_eq_some hrooms, KeyMap.get?_empty, eq_comm,
      Option.eq_none_iff_forall_ne_some]
    intro d hd
    obtain ⟨room, name, hroom, -, hname, -⟩ := Answers.listed?_eq_some_iff.1 hd
    rw [hunnamed id room hroom] at hname
    cases hname

/-- However often rooms are renamed, left without a name and encrypted, other events are handled
and restores are run: where no room had a name and the rooms index was empty, the rooms index
holds a document for a room just if the room is clear and its name is not blank, and that
document has the id of the room and the name that the read model has for it by then. -/
theorem rooms_index_is_clear_named (hnames : s.indices.rooms ≠ s.indices.messages)
    (hrefused : x.memory.refused = [])
    (hrooms : x.memory.indices.get? s.indices.rooms = some .empty)
    (hmessages : x.memory.indices.contains s.indices.messages = true)
    (hunnamed : ∀ id room, x.reads (.roomDetail id) = .ok room → RoomDetail.name room = none)
    (hrun : Relation.ReflTransGen (Step s) x x') (roomId : String) (d : Document) :
    x'.memory.document? s.indices.rooms roomId = some d ↔
      ∃ room name, x'.reads (.roomDetail roomId) = .ok room ∧ RoomDetail.isClear room = true ∧
        RoomDetail.name room = some name ∧ isName name = true ∧
        d = RoomDocument.toDocument ⟨roomId, name⟩ := by
  have hmirrors := (mirrors_of_unnamed hrefused hrooms hmessages hunnamed).after hnames hrun
  rw [hmirrors.listed]
  exact Answers.listed?_eq_some_iff

/-- A read model that knows one room. -/
def sampleReads (name encryption : Option String) : Answers
  | .roomDetail id =>
    if id = "!r" then .ok { (default : RoomDetail) with roomId := "!r", name, encryption }
    else .error (.database "no such room")
  | .displayName _ _ => .ok none
  | .isRedacted _ => .ok false
  | _ => .error (.database "not asked")

/-- The event that gives the room a name. -/
def naming : RoomEvent :=
  { (default : RoomEvent) with
    type := "m.room.name", roomId := "!r"
    content := .ofMembers [("name", .string "plans")] }

/-- A room that gets a name, a message and a restore is listed, and once it is encrypted it is not.
-/
theorem rooms_index_is_clear_named_sample :
    let names := SyncSettings.plain.indices
    let named := sampleReads (some "plans") none
    let encrypted := sampleReads (some "plans") (some "m.megolm.v1.aes-sha2")
    let m₀ := (Memory.empty.setDocuments "messages" .empty).setDocuments "rooms" .empty
    let m₁ := deliver .plain m₀ ⟨naming, named⟩
    let m₂ := deliver .plain m₁ ⟨.plainMessage, named⟩
    let m₃ := (Attempt.against named (Bootstrap.run 10 names) m₂).2
    let x : Scene := ⟨named, m₃⟩
    let x' : Scene := ⟨encrypted, deliver .plain m₃ ⟨.encryptingRoom, encrypted⟩⟩
    x.memory.document? names.rooms "!r" = some (RoomDocument.toDocument ⟨"!r", "plans"⟩) ∧
      x'.memory.document? names.rooms "!r" = none := by
  intro names named encrypted m₀ m₁ m₂ m₃ x x'
  let start : Scene := ⟨sampleReads none none, m₀⟩
  have hunnamed :
      ∀ id room, start.reads (.roomDetail id) = .ok room → RoomDetail.name room = none := by
    intro id room hroom
    simp only [start, sampleReads] at hroom
    split at hroom <;> cases hroom
    rfl
  have hnaming : start.reads.Updates named "!r" fun room => { room with name := some "plans" } := by
    intro id
    by_cases hid : id = "!r" <;> simp [start, named, sampleReads, hid, Except.map]
  have hencrypting : named.Updates encrypted "!r" fun room =>
      { room with encryption := some "m.megolm.v1.aes-sha2" } := by
    intro id
    by_cases hid : id = "!r" <;> simp [named, encrypted, sampleReads, hid, Except.map]
  have hname : naming.content.getString? "name" = some "plans" := rfl
  have hrename : Step .plain start ⟨named, m₁⟩ := .rename m₀ naming rfl (hname ▸ hnaming)
  have hmessage : Step .plain ⟨named, m₁⟩ ⟨named, m₂⟩ :=
    .other m₁ .plainMessage (by decide) (by decide) fun _ => rfl
  have hrestore : Step .plain ⟨named, m₂⟩ x := .restore m₂ 10 fun _ => rfl
  have hrun : Relation.ReflTransGen (Step .plain) start x :=
    ((Relation.ReflTransGen.single hrename).tail hmessage).tail hrestore
  have hencrypt : Step .plain x x' :=
    .encrypt m₃ .encryptingRoom "m.megolm.v1.aes-sha2" rfl rfl hencrypting
  have hrun' : Relation.ReflTransGen (Step .plain) start x' := hrun.tail hencrypt
  have hnames : names.rooms ≠ names.messages := by decide
  have hrefused : start.memory.refused = [] := rfl
  have hrooms : start.memory.indices.get? names.rooms = some .empty := rfl
  have hmessages : start.memory.indices.contains names.messages = true := rfl
  constructor
  · have hplans : isName "plans" = true := by decide
    have hlisted := rooms_index_is_clear_named hnames hrefused hrooms hmessages hunnamed hrun "!r"
    exact (hlisted _).2 ⟨_, "plans", rfl, rfl, rfl, hplans, rfl⟩
  · rw [Option.eq_none_iff_forall_ne_some]
    intro d hd
    -- A document would mean that the room is clear, and the read model has it as encrypted.
    have hlisted := rooms_index_is_clear_named hnames hrefused hrooms hmessages hunnamed hrun' "!r"
    obtain ⟨room, name, hroom, hclear, -⟩ := (hlisted d).1 hd
    cases hroom
    cases hclear

end Scene

end ChatIndex
