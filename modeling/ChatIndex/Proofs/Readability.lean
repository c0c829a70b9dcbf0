import ChatIndex.Proofs.Faultless
import ChatIndex.Proofs.Privacy
import ChatIndex.Proofs.Visibility

/-!
# What is written can be read back

Events and restores write documents field by field, and a search reads them back as records.  A
document is `Readable` if it denotes a record of its index whose id is the key of the document.
Written documents are, and the two fields that are written later change the record that a document
denotes and not whether it denotes one.  So a search never fails on a document that it finds.

* `ofJson?_toDocument`          a record is read back as it was written
* `ofJson?_insert_content`      an edit of a document edits the message it denotes
* `Search.relays_results`       a search of readable documents fails with its requests alone
* `stored_documents_read_back`  whatever was done, every document can be read back
-/

namespace ChatIndex

/-! ## Writing and reading a record -/

/-- The document of a room denotes the room that was written. -/
theorem RoomDocument.ofJson?_toDocument (room : RoomDocument) :
    ofJson? (Json.ofDocument room.toDocument) = some room := by
  rw [ofJson?_eq_some_iff]
  simp [toDocument, KeyMap.get?_ofList]

namespace MessageDocument

theorem ofJson?_toDocument (message : MessageDocument) :
    ofJson? (Json.ofDocument message.toDocument) = some message := by
  rw [ofJson?_eq_some_iff]
  simp [toDocument, KeyMap.get?_ofList]

variable {d : Document} {message : MessageDocument}

/-- An edit of a document edits the message that it denotes. -/
theorem ofJson?_insert_content (text : String)
    (h : ofJson? (Json.ofDocument d) = some message) :
    ofJson? (Json.ofDocument (d.insert "content" (.string text))) =
      some { message with content := text } := by
  rw [ofJson?_eq_some_iff] at h ⊢
  obtain ⟨hid, hroom, -, hsender, hdisplay⟩ := h
  simp [KeyMap.get?_insert, hid, hroom, hsender, hdisplay]

/-- A display name that is written into a document is that of the message that it denotes. -/
theorem ofJson?_insert_displayName (text : String)
    (h : ofJson? (Json.ofDocument d) = some message) :
    ofJson? (Json.ofDocument (d.insert "display_name" (.string text))) =
      some { message with displayName := some text } := by
  rw [ofJson?_eq_some_iff] at h ⊢
  obtain ⟨hid, hroom, hcontent, hsender, -⟩ := h
  simp [KeyMap.get?_insert, hid, hroom, hcontent, hsender, Json.ofOption]

end MessageDocument

/-! ## Readable documents -/

/-- Whether a document denotes a record of its index, and that under the id of the record. -/
structure Readable (names : IndexNames) (index id : String) (d : Document) : Prop where
  room : index = names.rooms →
    ∃ room, RoomDocument.ofJson? (Json.ofDocument d) = some room ∧ room.id = id
  message : index = names.messages →
    ∃ message, MessageDocument.ofJson? (Json.ofDocument d) = some message ∧ message.id = id

variable {s : SyncSettings} {names : IndexNames} {es : List Exchange} {ls : List LogRecord}
  {m m' : Memory}

/-- A room is written so that it can be read back, under its own id. -/
theorem readable_room (hnames : names.rooms ≠ names.messages) (room : RoomDocument) :
    Readable names names.rooms room.id room.toDocument where
  room _ := ⟨room, room.ofJson?_toDocument, rfl⟩
  message h := absurd h hnames

theorem readable_message (hnames : names.rooms ≠ names.messages) (message : MessageDocument) :
    Readable names names.messages message.id message.toDocument where
  room h := absurd h.symm hnames
  message _ := ⟨message, message.ofJson?_toDocument, rfl⟩

/-- What is written into a message later leaves it readable. -/
theorem Readable.insert (hnames : names.rooms ≠ names.messages) {id field : String} {d : Document}
    (h : Readable names names.messages id d) (hfield : field = "content" ∨ field = "display_name")
    (text : String) : Readable names names.messages id (d.insert field (.string text)) where
  room h := absurd h.symm hnames
  message hi := by
    obtain ⟨message, hread, rfl⟩ := h.message hi
    obtain rfl | rfl := hfield
    · exact ⟨_, MessageDocument.ofJson?_insert_content text hread, rfl⟩
    · exact ⟨_, MessageDocument.ofJson?_insert_displayName text hread, rfl⟩

/-- A run writes readable documents, whatever it is answered. -/
theorem keeps_readable_of_ends_serve {tasks : List Task} {seed : Indices}
    (h : (serve s tasks).Ends es ls ()) (hnames : s.indices.rooms ≠ s.indices.messages)
    (hseed : seed.All (Readable s.indices)) :
    ∀ call ∈ engineCalls es, call.Keeps (Readable s.indices) seed := by
  intro call hcall
  -- Of an event only the documents and the two later fields matter, of a restore only the rows.
  obtain hrequest | hrequest := request_of_ends_serve h call hcall
  · refine hrequest.keeps (fun roomId name _ _ _ => ?_) (fun message _ _ _ _ => ?_)
      fun id d field text hfield hd => ?_
    · exact readable_room hnames ⟨roomId, name⟩
    · exact readable_message hnames message
    · exact hd.insert hnames hfield text
  · refine hrequest.keeps hseed (fun rooms _ b hb => ?_) fun messages _ b hb => ?_
    · obtain ⟨room, -, rfl⟩ := List.mem_map.1 hb
      exact readable_room hnames ⟨room.roomId, room.name⟩
    · obtain ⟨message, -, rfl⟩ := List.mem_map.1 hb
      exact readable_message hnames
        ⟨message.eventId, message.roomId, message.content, message.sender, message.displayName⟩

/-! ## Searching readable documents -/

namespace Search

open Attempt

/-- A hit in a readable document is read as the record that the document denotes. -/
theorem exists_roomOfHit {hit : SearchHit} (h : Readable names names.rooms hit.id hit.source) :
    ∃ room, RoomDocument.ofJson? (Json.ofDocument hit.source) = some room ∧
      roomOfHit hit = .ok room := by
  obtain ⟨room, hread, hid⟩ := h.room rfl
  refine ⟨room, hread, ?_⟩
  rw [roomOfHit, readHit, hread, ← hid]
  rfl

/-- A hit in a readable document is read as the message that the document denotes. -/
theorem exists_messageOfHit {hit : SearchHit}
    (h : Readable names names.messages hit.id hit.source) :
    ∃ message, MessageDocument.ofJson? (Json.ofDocument hit.source) = some message ∧
      messageOfHit hit = .ok message := by
  obtain ⟨message, hread, hid⟩ := h.message rfl
  refine ⟨message, hread, ?_⟩
  rw [messageOfHit, readHit, hread, ← hid]
  rfl

/-- A hit of the engine is a document that it stores. -/
theorem document?_of_mem_find {needle : String} {target : IndexFields} {hit : SearchHit}
    (h : hit ∈ m.find needle target) : m.document? target.index hit.id = some hit.source := by
  obtain ⟨⟨id, d⟩, hmem, rfl⟩ := List.mem_map.1 h
  rw [KeyMap.mem_entries_iff, KeyMap.get?_filter] at hmem
  exact Option.eq_some_of_filter_eq_some hmem

/-- All hits in readable documents may be shown, or left out. -/
theorem exists_visible (hall : m.All (Readable names)) (hcanned : m.cannedHits = none)
    (pattern : String) (userRooms : List String) (email : Option String) :
    ∃ found, visible (m.search pattern (targets names)) userRooms email = .ok found := by
  -- Without canned replies the hits are documents that the memory holds.
  rw [Memory.search, hcanned]
  refine exists_visible_iff.2 ⟨fun hit hhit => ?_, fun hit hhit => ?_⟩
  · obtain ⟨room, -, hroom⟩ := exists_roomOfHit (hall _ _ _ (document?_of_mem_find hhit))
    exact ⟨room, roomOfHit_eq_ok_iff.1 hroom⟩
  · obtain ⟨message, -, hmessage⟩ := exists_messageOfHit (hall _ _ _ (document?_of_mem_find hhit))
    exact ⟨message, messageOfHit_eq_ok_iff.1 hmessage⟩

/-- A search in readable documents fails with nothing but the failure of one of its requests. -/
theorem relays_results {listing : Listing} {pattern userId : String}
    {email : Option String} {e : CallError} (hall : m.All (Readable names))
    (hcanned : m.cannedHits = none)
    (h : (results listing names pattern userId email).run.Ends es ls (.error e))
    (hsteps : m.Steps es m') :
    ∃ (c : Call) (failure : c.Failure), (⟨c, .error failure⟩ : Exchange) ∈ es ∧
      e = c.toCallError failure := by
  rw [results] at h
  obtain ⟨failure, rfl, rfl, he⟩ | ⟨lists, es₁, rfl, hread⟩ := ends_engine_bind.1 h
  · exact ⟨_, failure, List.mem_singleton_self _, Except.error.inj he⟩
  obtain ⟨failure, rfl, rfl, he⟩ | ⟨ids, es₂, rfl, hvisible⟩ := ends_read_bind.1 hread
  · exact ⟨_, failure, List.mem_cons_of_mem _ (List.mem_singleton_self _), Except.error.inj he⟩
  -- Both requests succeeded, so the hits are documents that the engine holds.
  obtain ⟨m₁, hsearch, -⟩ := Memory.steps_cons.1 hsteps
  have hlists : m.search pattern (targets names) = lists :=
    Except.ok.inj (congrArg Prod.fst hsearch.of_ok)
  obtain ⟨found, hfound⟩ := exists_visible hall hcanned pattern ids email
  rw [← hlists, hfound] at hvisible
  dsimp only at hvisible
  -- All that is left are questions to the read model about what was found.
  have hrest : ∃ (c : Call) (failure : c.Failure), (⟨c, .error failure⟩ : Exchange) ∈ es₂ ∧
      e = c.toCallError failure :=
    (relays_completion listing ids userId found).error es₂ ls e hvisible
  obtain ⟨c, failure, hmem, he⟩ := hrest
  exact ⟨c, failure, List.mem_cons_of_mem _ (List.mem_cons_of_mem _ hmem), he⟩

/-- A search in readable documents does not fail on one of them. -/
theorem ne_serialization_of_ends {listing : Listing} {text userId : String}
    {email : Option String} {reason : String} {r : Except QueryError Results}
    (hall : m.All (Readable names)) (hcanned : m.cannedHits = none)
    (h : (runWith listing names text userId email).run.Ends es ls r) (hsteps : m.Steps es m')
    (hfailures : ∀ c, (⟨.engine c, .error (.serialization reason)⟩ : Exchange) ∉ es) :
    r ≠ .error (.call (.engine (.serialization reason))) := by
  rintro rfl
  unfold runWith at h
  split at h
  · -- A pattern that is turned down makes no request at all.
    next e hpattern =>
    obtain ⟨reason, rfl⟩ := eq_invalid_of_pattern hpattern
    obtain ⟨-, -, he⟩ := ends_throw.1 h
    cases he
  · obtain ⟨r, hr, hvalue⟩ := Course.ends_map.1 h
    cases r with
    | ok a => cases hvalue
    | error e =>
      cases hvalue
      obtain ⟨c, failure, hmem, he⟩ := relays_results hall hcanned hr hsteps
      cases c with
      | engine c =>
        cases he
        exact hfailures c hmem
      | read c => cases he

end Search

/-! ## Whatever was done before -/

/-- Whatever events and restores were done, and whatever they were answered, every document of the
two indices denotes a record whose id is its key.  Hits in them are read as these records, and no
search fails on one. -/
theorem stored_documents_read_back {tasks : List Task} {rest : List Exchange} {m₀ : Memory}
    (hnames : s.indices.rooms ≠ s.indices.messages) (hstart : m₀.All (Readable s.indices))
    (hseed : m₀.preseed.All (Readable s.indices)) (hcanned : m₀.cannedHits = none)
    (hserve : (serve s tasks).Ends (es ++ rest) ls ()) (hsteps : m₀.Steps es m) :
    m.All (Readable s.indices) ∧
      (∀ hit, m.document? s.indices.rooms hit.id = some hit.source →
        ∃ room, RoomDocument.ofJson? (Json.ofDocument hit.source) = some room ∧
          Search.roomOfHit hit = .ok room) ∧
      (∀ hit, m.document? s.indices.messages hit.id = some hit.source →
        ∃ message, MessageDocument.ofJson? (Json.ofDocument hit.source) = some message ∧
          Search.messageOfHit hit = .ok message) ∧
      ∀ listing text userId email reason es' ls' r m',
        (Search.runWith listing s.indices text userId email).run.Ends es' ls' r →
        m.Steps es' m' → (∀ c, (⟨.engine c, .error (.serialization reason)⟩ : Exchange) ∉ es') →
        r ≠ .error (.call (.engine (.serialization reason))) := by
  -- A run that is not over yet has made the first of its requests.
  have hkeeps := keeps_readable_of_ends_serve hserve hnames hseed
  rw [engineCalls_append, List.forall_mem_append] at hkeeps
  have hall := hsteps.all hstart hkeeps.1
  refine ⟨hall, fun hit hhit => ?_, fun hit hhit => ?_, ?_⟩
  · exact Search.exists_roomOfHit (hall _ _ _ hhit)
  · exact Search.exists_messageOfHit (hall _ _ _ hhit)
  · intro listing text userId email reason es' ls' r m' hsearch hsteps' hfailures
    rw [← hsteps.cannedHits_eq] at hcanned
    exact Search.ne_serialization_of_ends hall hcanned hsearch hsteps' hfailures

/-- After a restore and one more message both messages are there, and a search for the new one does
not fail on either. -/
theorem stored_documents_read_back_oneMessage :
    let tasks : List Task := [.restore 10, .event .plainMessage]
    let w := ((serve .plain tasks).run World.handler .oneMessage).state
    let search := Search.run SyncSettings.plain.indices "seven" "@ann" none
    w.memory.All (Readable SyncSettings.plain.indices) ∧
      (w.memory.document? "messages" "$1").isSome ∧ (w.memory.document? "messages" "$2").isSome ∧
      ∀ reason, (search.against w.tables.answer w.memory).1 ≠
        .error (.call (.engine (.serialization reason))) := by
  intro tasks w search
  have hempty : World.oneMessage.memory.All (Readable SyncSettings.plain.indices) :=
    fun i id d hd => nomatch hd
  have hserve := Course.ends_exchanges_unit World.handler (serve .plain tasks) .oneMessage
  rw [← List.append_nil (Course.exchanges ..)] at hserve
  have hsteps := World.steps_exchanges (serve .plain tasks) .oneMessage
  obtain ⟨hall, -, -, hsearch⟩ := stored_documents_read_back (by decide) hempty
    (fun i ds id d hds => nomatch hds) rfl hserve hsteps
  refine ⟨hall, by decide +kernel, by decide +kernel, fun reason => ?_⟩
  -- The engine in memory has no trouble with serialization of its own.
  refine hsearch .ascending "seven" "@ann" none reason _ _ _ _
    (Course.ends_exchanges (Memory.handler w.tables.answer) search.run w.memory)
    (Memory.steps_exchanges search.run w.memory) fun c hmem => ?_
  obtain ⟨m', hanswer⟩ := Memory.answer_of_mem_exchanges search.run w.memory hmem
  exact m'.answer_ne_serialization c reason hanswer.symm

end ChatIndex
