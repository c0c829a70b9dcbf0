import ChatIndex.Proofs.Backfill
import ChatIndex.Proofs.Restoring
import Mathlib.Control.Monad.Basic

/-!
# Running a restore again after it failed

A restore looks at an index only to see whether it exists, and leaves one alone that does: what it
holds may be ahead of the snapshot.  By that rule a later run passes over an index that a failed
run had created, and ends well with what the failed run left in it.  An index that the failed run
did not create holds all of its rows after the next run that ends well.

* `against_sendAll_accepted`    batches without a rejection are all there
* `Restoring.creation_mem_iff`  an index is there after a run just if the run created it
* `restored_again_iff`          which rows are in the indices after the second run
-/

namespace ChatIndex

/-! ## Requests about other indices -/

/-- Whether a request leaves an index as it is, whatever the engine holds. -/
def EngineCall.Leaves (i : String) (c : EngineCall) : Prop :=
  ∀ m : Memory, (m.answer c).2.indices.get? i = m.indices.get? i

/-- Exchanges leave an index as it is if all their requests do. -/
theorem Memory.Steps.get?_indices {m m' : Memory} {es : List Exchange} {i : String}
    (h : m.Steps es m') (hleaves : ∀ c ∈ engineCalls es, c.Leaves i) :
    m'.indices.get? i = m.indices.get? i := by
  let R (m m' : Memory) : Prop := m'.indices.get? i = m.indices.get? i
  have htrans : ∀ m₁ m₂ m₃, R m₁ m₂ → R m₂ m₃ → R m₁ m₃ := fun _ _ _ h₁ h₂ => h₂.trans h₁
  exact h.related (R := R) (fun _ => rfl) htrans hleaves

namespace Bootstrap

open Attempt

variable {reads : Answers}

/-! ## Batches without rejections -/

/-- Batches of which nothing was rejected are all there in the end. -/
theorem against_sendAll_accepted {index : String} {batches : List (List BulkDocument)}
    {m m' : Memory} (hcreate : ∀ batch ∈ batches, ∀ b ∈ batch, b.action = .create)
    (h : against reads (sendAll index batches) m = (.ok [], m')) :
    (∀ id d, m.document? index id = some d → m'.document? index id = some d) ∧
      ∀ batch ∈ batches, ∀ b ∈ batch, m'.document? index b.id = some b.fields := by
  have hcreate : ∀ b ∈ batches.flatten, b.action = .create := by
    intro b hb
    obtain ⟨batch, hbatch, hb⟩ := List.mem_flatten.1 hb
    exact hcreate batch hbatch b hb
  obtain ⟨hdocuments, -, -, -⟩ := documents_of_against_sendAll h
  -- Sent one by one, the batches write what they would write as one.
  rw [against_sendAll_eq] at h
  have haccepted : (Memory.writeAll m.refused index (m.documents index) batches.flatten).2 = [] :=
    Except.ok.inj (Prod.mk.inj h).1
  constructor
  · intro id d hd
    rw [Memory.document?, hdocuments]
    exact Memory.get?_writeAll_create hcreate hd
  · intro batch hbatch b hb
    rw [Memory.document?, hdocuments]
    exact Memory.get?_writeAll_accepted hcreate haccepted b
      (List.mem_flatten.2 ⟨batch, hbatch, hb⟩)

/-- A missing index holds all of the snapshot once it was filled without an error. -/
theorem against_ensureFilled_ok {batchSize : Nat} {index : String} {mapping : Json}
    {snapshot : ReadCall} {entries : snapshot.Value → List BulkDocument} {rows : snapshot.Value}
    {m m' : Memory} {n : Option Nat} (hmissing : m.indices.contains index = false)
    (hrows : reads snapshot = .ok rows) (hcreate : ∀ b ∈ entries rows, b.action = .create)
    (h : against reads (ensureFilled batchSize index mapping snapshot entries) m = (.ok n, m')) :
    ∀ b ∈ entries rows, m'.document? index b.id = some b.fields := by
  rw [against_ensureFilled_missing hmissing hrows, against_bind, backfill, against_bind] at h
  -- The backfill ends well only if no batch failed and nothing was rejected.
  split at h
  · next written m₁ hbackfill =>
    split at hbackfill
    · next rejections m₂ hsent =>
      split at hbackfill
      · cases congrArg Prod.fst hbackfill
      · next hempty =>
        have hnone : rejections = [] := by simpa using hempty
        rw [hnone] at hsent
        have hcreate' : ∀ piece ∈ chunks (max batchSize 1) (entries rows), ∀ b ∈ piece,
            b.action = .create :=
          fun piece hpiece b hb => hcreate b (mem_of_mem_chunks hpiece hb)
        obtain ⟨-, hwritten⟩ := against_sendAll_accepted hcreate' hsent
        have hm' : m' = m₂ :=
          (congrArg Prod.snd h).symm.trans (congrArg Prod.snd hbackfill).symm
        intro b hb
        rw [← flatten_chunks (max batchSize 1) (entries rows)] at hb
        obtain ⟨piece, hpiece, hb⟩ := List.mem_flatten.1 hb
        rw [hm']
        exact hwritten piece hpiece b hb
    · cases congrArg Prod.fst hbackfill
  · cases congrArg Prod.fst h

/-! ## Which indices a run creates -/

section Creating

variable {batchSize : Nat} {index : String} {mapping : Json} {snapshot : ReadCall}
  {entries : snapshot.Value → List BulkDocument} {es : List Exchange} {m m' : Memory}

/-- A batch for one index leaves the other ones as they are. -/
private theorem leaves_batchCall {i : String} (hi : i ≠ index) (batch : List BulkDocument) :
    (batchCall index batch).Leaves i := by
  intro m
  rw [batchCall, Memory.answer, Memory.indexDocuments_insert_empty]
  exact (KeyMap.get?_insert ..).trans (if_neg hi)

private theorem leaves_createIndex {i : String} (hi : i ≠ index) :
    (EngineCall.createIndex index mapping).Leaves i := by
  intro m
  simp only [Memory.answer, Memory.createIndex]
  split
  · rfl
  · exact (KeyMap.get?_insert ..).trans (if_neg hi)

/-- Sending batches to one index leaves the other ones as they are. -/
private theorem Sending.leaves {batches : List (List BulkDocument)}
    {r : Except CallError (List Rejection)} {i : String} (h : Sending index batches es r)
    (hi : i ≠ index) : ∀ c ∈ engineCalls es, c.Leaves i := by
  induction h with
  | done => exact fun c hc => absurd hc List.not_mem_nil
  | accepted batch rest ih | rejected batch rejections rest ih =>
    exact List.forall_mem_cons.2 ⟨leaves_batchCall hi batch, ih⟩
  | broken batch batches e he => exact List.forall_mem_singleton.2 (leaves_batchCall hi batch)

/-- Creating and filling an index leaves the other ones as they are. -/
theorem Filling.leaves {r : Except CallError (Option Nat)} {i : String}
    (h : Filling batchSize index mapping snapshot entries es r) (hi : i ≠ index) :
    ∀ c ∈ engineCalls es, c.Leaves i := by
  have hexists : (EngineCall.indexExists index).Leaves i := fun _ => rfl
  cases h with
  | unknown e | present => exact List.forall_mem_singleton.2 hexists
  | notCreated e | unread e =>
    exact List.forall_mem_cons.2 ⟨hexists, List.forall_mem_singleton.2 (leaves_createIndex hi)⟩
  | filled rows sending =>
    exact List.forall_mem_cons.2
      ⟨hexists, List.forall_mem_cons.2 ⟨leaves_createIndex hi, sending.leaves hi⟩⟩

/-- The exchange in which an index is created. -/
def creation (index : String) (mapping : Json) : Exchange :=
  ⟨.engine (.createIndex index mapping), .ok ()⟩

/-- An index that was created holds what belongs in it from then on. -/
theorem eq_setDocuments_of_creation (h : m.Step (creation index mapping) m') :
    m' = m.setDocuments index ((m.preseed.get? index).getD .empty) := by
  have hanswer : m.createIndex index = (.ok (), m') := h.of_ok
  unfold Memory.createIndex at hanswer
  split at hanswer
  · cases congrArg Prod.fst hanswer
  · exact (Prod.mk.inj hanswer).2.symm

/-- A request that creates an index leaves it there. -/
theorem contains_of_creation (h : m.Step (creation index mapping) m') :
    m'.indices.contains index = true := by
  rw [eq_setDocuments_of_creation h, Memory.contains_setDocuments, decide_eq_true rfl,
    Bool.true_or]

/-- A missing index is there after it was to be filled just if it was created. -/
theorem Filling.creation_mem_iff {r : Except CallError (Option Nat)}
    (h : Filling batchSize index mapping snapshot entries es r)
    (hmissing : m.indices.contains index = false) (hsteps : m.Steps es m') :
    creation index mapping ∈ es ↔ m'.indices.contains index = true := by
  -- Whether the index exists is asked first, and the question changes nothing.
  have hexists : ∀ {answer m₁}, m.Step ⟨.engine (.indexExists index), answer⟩ m₁ → m₁ = m :=
    fun hstep => hstep.eq_or_answer.elim id id
  cases h with
  | unknown e =>
    obtain ⟨m₁, hstep, hrest⟩ := Memory.steps_cons.1 hsteps
    rw [Memory.steps_nil.1 hrest, hexists hstep, hmissing]
    simp [creation]
  | present =>
    obtain ⟨m₁, hstep, -⟩ := Memory.steps_cons.1 hsteps
    have hpresent : m.indices.contains index = true :=
      Except.ok.inj (congrArg Prod.fst hstep.of_ok)
    rw [hmissing] at hpresent
    cases hpresent
  | notCreated e =>
    obtain ⟨m₁, hstep, hrest⟩ := Memory.steps_cons.1 hsteps
    obtain ⟨m₂, hcreate, hrest⟩ := Memory.steps_cons.1 hrest
    rw [hexists hstep] at hcreate
    have hsame : m₂ = m := by
      refine hcreate.of_error.resolve_right fun hanswer => ?_
      -- Nothing but a fault keeps a missing index from being created.
      simp [Memory.answer, Memory.createIndex, hmissing] at hanswer
    rw [Memory.steps_nil.1 hrest, hsame, hmissing]
    simp [creation]
  | unread e | filled rows sending =>
    obtain ⟨m₁, -, hrest⟩ := Memory.steps_cons.1 hsteps
    obtain ⟨m₂, hcreate, hrest⟩ := Memory.steps_cons.1 hrest
    have hthere := hrest.contains (contains_of_creation hcreate)
    exact iff_of_true (List.mem_cons_of_mem _ List.mem_cons_self) hthere

/-- No other index is created. -/
theorem Filling.creation_not_mem {r : Except CallError (Option Nat)} {i : String}
    (h : Filling batchSize index mapping snapshot entries es r) (hi : i ≠ index)
    (mapping' : Json) : creation i mapping' ∉ es := by
  intro hmem
  have hleaves := h.leaves hi _ (mem_engineCalls_iff.2 ⟨_, hmem⟩) .empty
  -- In an empty memory the creation would show, so it is not among the requests.
  simp [Memory.answer, Memory.createIndex, Memory.setDocuments, Memory.empty, KeyMap.contains,
    KeyMap.get?_insert] at hleaves

/-- After a run that found neither index, each is there just if the run created it. -/
theorem Restoring.creation_mem_iff {names : IndexNames} {r : Except CallError BootstrapReport}
    (h : Restoring batchSize names es r) (hnames : names.rooms ≠ names.messages)
    (hrooms : m.indices.contains names.rooms = false)
    (hmessages : m.indices.contains names.messages = false) (hsteps : m.Steps es m') :
    (creation names.rooms roomsMapping ∈ es ↔ m'.indices.contains names.rooms = true) ∧
      (creation names.messages messagesMapping ∈ es ↔
        m'.indices.contains names.messages = true) := by
  -- What the rooms step does to the messages index, and the messages step to the rooms index.
  have hmessages₁ : ∀ {es₁ r} {m₁ : Memory}, FillingRooms batchSize names es₁ r → m.Steps es₁ m₁ →
      m₁.indices.contains names.messages = false := by
    intro es₁ r m₁ filling hsteps₁
    rw [KeyMap.contains, hsteps₁.get?_indices (filling.leaves (Ne.symm hnames))]
    exact hmessages
  have hrooms₂ : ∀ {es₂ r} {m₁ : Memory}, FillingMessages batchSize names es₂ r → m₁.Steps es₂ m' →
      m'.indices.contains names.rooms = m₁.indices.contains names.rooms := by
    intro es₂ r m₁ filling hsteps₂
    rw [KeyMap.contains, hsteps₂.get?_indices (filling.leaves hnames)]
    rfl
  cases h with
  | roomsFailed rooms =>
    refine ⟨rooms.creation_mem_iff hrooms hsteps, iff_of_false ?_ ?_⟩
    · exact rooms.creation_not_mem (Ne.symm hnames) _
    · rw [hmessages₁ rooms hsteps]
      decide
  | messagesFailed rooms messages | finished rooms messages =>
    obtain ⟨m₁, hsteps₁, hsteps₂⟩ := Memory.steps_append.1 hsteps
    rw [List.mem_append, List.mem_append, hrooms₂ messages hsteps₂]
    constructor
    · rw [← rooms.creation_mem_iff hrooms hsteps₁]
      exact or_iff_left (messages.creation_not_mem hnames _)
    · rw [← messages.creation_mem_iff (hmessages₁ rooms hsteps₁) hsteps₂]
      exact or_iff_right (rooms.creation_not_mem (Ne.symm hnames) _)

end Creating

/-! ## The second run -/

/-- What a run without faults that ends well leaves of each index: an index that was there is as
it was, and one that was not there holds the whole snapshot. -/
theorem against_run_ok {batchSize : Nat} {names : IndexNames} {m m' : Memory}
    {report : BootstrapReport} {rooms : List RoomName} {messages : List RoomMessage}
    (hnames : names.rooms ≠ names.messages) (hrooms : reads .clearRoomNames = .ok rooms)
    (hmessages : reads .clearRoomMessages = .ok messages)
    (h : against reads (run batchSize names) m = (.ok report, m')) :
    (if m.indices.contains names.rooms = true then
        m'.documents names.rooms = m.documents names.rooms
      else ∀ room ∈ rooms, m'.document? names.rooms room.roomId = some (roomEntry room).fields) ∧
    (if m.indices.contains names.messages = true then
        m'.documents names.messages = m.documents names.messages
      else ∀ message ∈ messages,
        m'.document? names.messages message.eventId = some (messageEntry message).fields) := by
  rw [run, against_bind] at h
  split at h
  · next n m₁ hrun₁ =>
    rw [against_bind] at h
    split at h
    · next k m₂ hrun₂ =>
      have hm' : m' = m₂ := (congrArg Prod.snd h).symm
      rw [ensureRooms_eq] at hrun₁
      rw [ensureMessages_eq] at hrun₂
      -- Each step leaves the index of the other one as it is.
      obtain ⟨es₁, ls₁, hends₁, hsteps₁⟩ := exists_ends_of_against hrun₁
      obtain ⟨es₂, ls₂, hends₂, hsteps₂⟩ := exists_ends_of_against hrun₂
      have hother₁ := hsteps₁.get?_indices ((filling_of_ends hends₁).leaves (Ne.symm hnames))
      have hother₂ := hsteps₂.get?_indices ((filling_of_ends hends₂).leaves hnames)
      rw [hm']
      constructor
      · split
        · next hpresent =>
          rw [against_ensureFilled_present hpresent] at hrun₁
          rw [Memory.documents, hother₂, ← (Prod.mk.inj hrun₁).2]
          rfl
        · next hmissing =>
          have hwritten := against_ensureFilled_ok (eq_false_of_ne_true hmissing) hrooms
            (by simp [roomEntry]) hrun₁
          intro room hroom
          rw [Memory.document?, Memory.documents, hother₂]
          exact hwritten _ (List.mem_map_of_mem hroom)
      · have hcontains :
            m₁.indices.contains names.messages = m.indices.contains names.messages := by
          rw [KeyMap.contains, hother₁]
          rfl
        split
        · next hpresent =>
          rw [against_ensureFilled_present (hcontains.trans hpresent)] at hrun₂
          rw [← (Prod.mk.inj hrun₂).2, Memory.documents, hother₁]
          rfl
        · next hmissing =>
          rw [← hcontains] at hmissing
          have hwritten := against_ensureFilled_ok (eq_false_of_ne_true hmissing) hmessages
            (by simp [messageEntry]) hrun₂
          intro message hmessage
          exact hwritten _ (List.mem_map_of_mem hmessage)
    · cases congrArg Prod.fst h
  · cases congrArg Prod.fst h

/-- Whether a document is in an index that a run before may have created. -/
private theorem restored_iff {created : Prop} {m₁ m₂ : Memory} {index id : String} {d : Document}
    (hcreated : created ↔ m₁.indices.contains index = true)
    (hpresent : m₁.indices.contains index = true → m₂.documents index = m₁.documents index)
    (hmissing : ¬m₁.indices.contains index = true → m₂.document? index id = some d) :
    m₂.document? index id = some d ↔ ¬created ∨ m₁.document? index id = some d := by
  -- An index that is there is passed over, and one that is missing is filled.
  by_cases hthere : m₁.indices.contains index = true
  · rw [Memory.document?, hpresent hthere, or_iff_right (fun hnot => hnot (hcreated.2 hthere))]
    rfl
  · exact iff_of_true (hmissing hthere) (.inl (mt hcreated.1 hthere))

/-- A run that finds neither index, however it goes, and a later one without faults that ends
well: a row of a snapshot has its document after the second run just if the first run did not
create the index, or had left the document there. -/
theorem restored_again_iff {batchSize batchSize' : Nat} {names : IndexNames} {m₀ m₁ m₂ : Memory}
    {es : List Exchange} {ls : List LogRecord} {r : Except CallError BootstrapReport}
    {report : BootstrapReport} {rooms : List RoomName} {messages : List RoomMessage}
    (hnames : names.rooms ≠ names.messages)
    (hnoRooms : m₀.indices.contains names.rooms = false)
    (hnoMessages : m₀.indices.contains names.messages = false)
    (hfirst : (run batchSize names).run.Ends es ls r) (hsteps : m₀.Steps es m₁)
    (hsecond : against reads (run batchSize' names) m₁ = (.ok report, m₂))
    (hrooms : reads .clearRoomNames = .ok rooms)
    (hmessages : reads .clearRoomMessages = .ok messages) :
    (∀ room ∈ rooms, m₂.document? names.rooms room.roomId = some (roomEntry room).fields ↔
      creation names.rooms roomsMapping ∉ es ∨
        m₁.document? names.rooms room.roomId = some (roomEntry room).fields) ∧
    (∀ message ∈ messages,
      m₂.document? names.messages message.eventId = some (messageEntry message).fields ↔
        creation names.messages messagesMapping ∉ es ∨
          m₁.document? names.messages message.eventId = some (messageEntry message).fields) := by
  obtain ⟨hcreatedRooms, hcreatedMessages⟩ :=
    (restoring_of_ends hfirst).creation_mem_iff hnames hnoRooms hnoMessages hsteps
  -- What the second run leaves depends on which indices the first one left.
  obtain ⟨hafterRooms, hafterMessages⟩ := against_run_ok hnames hrooms hmessages hsecond
  constructor
  · intro room hroom
    refine restored_iff hcreatedRooms (fun hthere => ?_) fun hthere => ?_
    · rwa [if_pos hthere] at hafterRooms
    · rw [if_neg hthere] at hafterRooms
      exact hafterRooms room hroom
  · intro message hmessage
    refine restored_iff hcreatedMessages (fun hthere => ?_) fun hthere => ?_
    · rwa [if_pos hthere] at hafterMessages
    · rw [if_neg hthere] at hafterMessages
      exact hafterMessages message hmessage

/-- A world with one room and a read model that fails to list the rooms once. -/
def unreadOnce : World :=
  let room : RoomDetail := { (default : RoomDetail) with roomId := "!r", name := some "plans" }
  { World.empty with
    tables := { Tables.empty with rooms := [room] }
    storeFaults :=
      KeyMap.empty.insert "get_all_clear_rooms_names" ⟨.database "connection lost", 0, some 1⟩ }

/-- The criterion holds of the world in which the first run could not read the rooms. -/
theorem restored_again_iff_unreadOnce :
    let names := SyncSettings.plain.indices
    let es := (run 10 names).run.exchanges World.handler unreadOnce
    let m₁ := ((run 10 names).run.run World.handler unreadOnce).state.memory
    let m₂ := (against unreadOnce.tables.answer (run 10 names) m₁).2
    ∀ room ∈ unreadOnce.tables.clearRoomNames,
      m₂.document? names.rooms room.roomId = some (roomEntry room).fields ↔
        creation names.rooms roomsMapping ∉ es ∨
          m₁.document? names.rooms room.roomId = some (roomEntry room).fields := by
  intro names es m₁ m₂
  have hfirst := Course.ends_exchanges World.handler (run 10 names).run unreadOnce
  have hsteps := World.steps_exchanges (run 10 names).run unreadOnce
  have hvalue : (against unreadOnce.tables.answer (run 10 names) m₁).1 =
      .ok ⟨["messages"], 0, 0⟩ := by
    decide +kernel
  have hsecond : against unreadOnce.tables.answer (run 10 names) m₁ =
      (.ok ⟨["messages"], 0, 0⟩, m₂) := by
    rw [← hvalue]
  exact (restored_again_iff (by decide) (by decide) (by decide) hfirst hsteps hsecond rfl rfl).1

/-- A run that failed to read the rooms is not made up for: the second run ends well and leaves
the room out. -/
theorem rerun_passes_over_created_index :
    let names := SyncSettings.plain.indices
    let first := (run 10 names).run.run World.handler unreadOnce
    let second := (run 10 names).run.run World.handler first.state
    first.value = .error (.store (.database "connection lost")) ∧
      second.value = .ok ⟨["messages"], 0, 0⟩ ∧
      (⟨"!r", "plans"⟩ : RoomName) ∈ unreadOnce.tables.clearRoomNames ∧
      second.state.memory.document? names.rooms "!r" = none := by
  decide +kernel

end Bootstrap

end ChatIndex
