import ChatIndex.Proofs.Agreement

/-!
# Bad rows in the snapshot of the current messages

The snapshot is read in two queries: the stored messages, and then the names of the members of
their rooms.  A stored message that cannot be read, or that asks for nothing, is left out; a query
that fails ends the whole snapshot.  All that the snapshot takes from the rows of the first query
are their changes (`storedChanges`), so a row that is left out cannot show anywhere.

* `Padded`                       rows that are left out are inserted anywhere
* `storedChanges_of_padded`      such rows add no change
* `asks`                         whose names the second query asks for
* `skipped_rows_change_nothing`  the snapshot and its queries with bad rows and without
-/

namespace ChatIndex

namespace Database

/-! ## Kinds of rows -/

/-- A row that the snapshot leaves out: its text cannot be read, or it asks for nothing, or it is
malformed. -/
def Skipped (row : Row) : Prop :=
  ∃ m, storedMessage? row = some m ∧
    (m.event? = none ∨
      ∃ event, m.event? = some event ∧
        (event.change? = .ok none ∨ ∃ malformed, event.change? = .error malformed))

/-- A row with a message of a room, or with an edit. -/
def Tells (row : Row) (roomId : String) : Prop :=
  ∃ m event, storedMessage? row = some m ∧ m.event? = some event ∧
    ((∃ eventId sender body, event.change? = .ok (some (.messageSent roomId eventId sender body))) ∨
      ∃ target body, event.change? = .ok (some (.messageEdited roomId target body)))

/-- The second list has the rows of the first in their order, and anywhere among them rows that are
left out. -/
inductive Padded : List Row → List Row → Prop
  | nil : Padded [] []
  | skip {row : Row} {rows padded : List Row} :
      Skipped row → Padded rows padded → Padded rows (row :: padded)
  | keep {row : Row} {rows padded : List Row} :
      Padded rows padded → Padded (row :: rows) (row :: padded)

/-- A row that is left out has its columns, and asks for no change. -/
theorem Skipped.change?_eq_none {row : Row} (h : Skipped row) :
    ∃ m, storedMessage? row = some m ∧ m.change? = none := by
  obtain ⟨m, hm, hskip⟩ := h
  refine ⟨m, hm, ?_⟩
  unfold StoredMessage.change?
  rcases hskip with hevent | ⟨event, hevent, hchange | ⟨malformed, hchange⟩⟩
  · rw [hevent]
    rfl
  · rw [hevent, Option.map_some, hchange]
  · rw [hevent, Option.map_some, hchange]

/-- A row tells of a room just if its change is one of the room. -/
theorem tells_iff {row : Row} {roomId : String} :
    Tells row roomId ↔
      ∃ m c, storedMessage? row = some m ∧ m.change? = some c ∧ c.roomId = roomId := by
  constructor
  · rintro ⟨m, event, hm, hevent, ⟨eventId, sender, body, hchange⟩ | ⟨target, body, hchange⟩⟩
    · exact ⟨m, _, hm, by rw [StoredMessage.change?, hevent, Option.map_some, hchange], rfl⟩
    · exact ⟨m, _, hm, by rw [StoredMessage.change?, hevent, Option.map_some, hchange], rfl⟩
  · rintro ⟨m, c, hm, hc, rfl⟩
    unfold StoredMessage.change? at hc
    cases hevent : m.event? with
    | none =>
      rw [hevent] at hc
      cases hc
    | some event =>
      rw [hevent, Option.map_some] at hc
      have hchange : event.change? = .ok (some c) := by
        split at hc
        · next heq => rw [Option.some.inj heq, hc]
        · cases hc
      -- A stored event is one of a message, so it asks for no change but the two.
      obtain ⟨htype, -, -⟩ := StoredMessage.fields_of_event? hevent
      refine ⟨m, event, hm, hevent, ?_⟩
      rcases RoomEvent.cases_of_change?_message htype hchange with
        ⟨eventId, body, -, rfl⟩ | ⟨target, body, rfl⟩
      · exact .inl ⟨eventId, event.sender, body, hchange⟩
      · exact .inr ⟨target, body, hchange⟩

/-! ## What the snapshot takes from the rows -/

/-- The changes of rows of stored messages, if all rows have the columns that were asked for. -/
def storedChanges (rows : List Row) : Except StoreError (List Change) :=
  (List.filterMap StoredMessage.change?) <$> rows.mapM (readRow storedMessage?)

/-- A row that has its columns adds its change, if it asks for one. -/
theorem storedChanges_cons_some {row : Row} {m : StoredMessage} (hm : storedMessage? row = some m)
    (rows : List Row) :
    storedChanges (row :: rows) = (m.change?.toList ++ ·) <$> storedChanges rows := by
  have hread : readRow storedMessage? row = .ok m := by simp [readRow, hm]
  unfold storedChanges
  rw [List.mapM_cons, hread]
  cases rows.mapM (readRow storedMessage?) with
  | error e => rfl
  | ok stored =>
    show Except.ok _ = Except.ok _
    cases hc : m.change? with
    | none => rw [List.filterMap_cons_none hc]; rfl
    | some c => rw [List.filterMap_cons_some hc]; rfl

/-- A row without its columns is the end of it. -/
theorem storedChanges_cons_none {row : Row} (hm : storedMessage? row = none) (rows : List Row) :
    storedChanges (row :: rows) = .error (storeError .malformedRow) := by
  have hread : readRow storedMessage? row = .error (storeError .malformedRow) := by
    simp [readRow, hm]
  unfold storedChanges
  rw [List.mapM_cons, hread]
  rfl

/-- Rows that are left out add no change, and hide no row that cannot be read. -/
theorem storedChanges_of_padded {rows padded : List Row} (h : Padded rows padded) :
    storedChanges padded = storedChanges rows := by
  -- The induction is on how rows were inserted: a kept row that cannot be read ends both lists.
  induction h with
  | nil => rfl
  | @skip row rows padded hskip _ ih =>
    obtain ⟨m, hm, hnone⟩ := hskip.change?_eq_none
    rw [storedChanges_cons_some hm, hnone, ih]
    exact id_map _
  | @keep row rows padded _ ih =>
    cases hm : storedMessage? row with
    | none => rw [storedChanges_cons_none hm, storedChanges_cons_none hm]
    | some m => rw [storedChanges_cons_some hm, storedChanges_cons_some hm, ih]

/-- There are changes just if all rows can be read, and they are those of the rows. -/
theorem storedChanges_spec (rows : List Row) :
    (∃ changes, storedChanges rows = .ok changes ∧ (∀ row ∈ rows, (storedMessage? row).isSome) ∧
      ∀ c, c ∈ changes ↔ ∃ row ∈ rows, ∃ m, storedMessage? row = some m ∧ m.change? = some c) ∨
    storedChanges rows = .error (storeError .malformedRow) ∧
      ¬ ∀ row ∈ rows, (storedMessage? row).isSome := by
  induction rows with
  | nil => exact .inl ⟨[], rfl, by simp, by simp⟩
  | cons row rows ih =>
    cases hm : storedMessage? row with
    | none =>
      right
      exact ⟨storedChanges_cons_none hm rows, by simp [hm]⟩
    | some m =>
      -- This row can be read, so the rows behind it decide.
      rcases ih with ⟨changes, hchanges, hreadable, hmem⟩ | ⟨herror, hunreadable⟩
      · left
        refine ⟨m.change?.toList ++ changes, ?_, ?_, ?_⟩
        · rw [storedChanges_cons_some hm, hchanges]
          rfl
        · simpa [hm] using hreadable
        · intro c
          rw [List.mem_append, Option.mem_toList, hmem]
          simp [hm]
      · right
        constructor
        · rw [storedChanges_cons_some hm, herror]
          rfl
        · intro hreadable
          exact hunreadable fun row hrow => hreadable row (List.mem_cons_of_mem _ hrow)

/-! ## Queries one after the other -/

variable {α : Type} {read : Row → Option α} {replies : List Reply} {received : List Query}

/-- A query takes the next reply, and reads its rows one by one. -/
theorem runAgainst_all_rows (query : Query) (rows : List Row) :
    runAgainst (all read query) ⟨.ok (.rows rows :: replies), received⟩ =
      (rows.mapM (readRow read), ⟨.ok replies, received ++ [query]⟩) := by
  have hrows : runAgainst (Database.rows query) ⟨.ok (.rows rows :: replies), received⟩ =
      (.ok rows, ⟨.ok replies, received ++ [query]⟩) := rfl
  rw [all, runAgainst_bind, hrows]
  rfl

/-- A query that the server refuses gives no value. -/
theorem runAgainst_all_error (query : Query) (message : String) :
    runAgainst (all read query) ⟨.ok (.error message :: replies), received⟩ =
      (.error (storeError (.server message)), ⟨.ok replies, received ++ [query]⟩) := rfl

/-- Whatever the server replies, a query for all rows is one query. -/
theorem received_runAgainst_all (query : Query) :
    (runAgainst (all read query) ⟨.ok replies, received⟩).2.received = received ++ [query] := by
  cases replies with
  | nil => rfl
  | cons reply replies =>
    cases reply with
    | rows rows => rw [runAgainst_all_rows]
    | error message => rw [runAgainst_all_error]

/-- What is made of the value sends no query. -/
theorem snd_runAgainst_bind_pure {β : Type} (x : Attempt α) (f : α → β) (server : Server) :
    (runAgainst (x >>= fun a => pure (f a)) server).2 = (runAgainst x server).2 := by
  rw [runAgainst_bind]
  cases hx : runAgainst x server with
  | mk value server' => cases value <;> rfl

/-- The rest of the snapshot, once the changes are read. -/
def named (changes : List Change) : Attempt (List RoomMessage) := do
  let names ← memberNames (sortedDistinct (changes.map Change.roomId))
  return History.currentMessages changes names

/-- The snapshot takes nothing from the rows but their changes. -/
theorem exists_runAgainst_clearRoomMessages_eq :
    ∃ query, ∀ replies : List Reply,
      (∀ rows, runAgainst clearRoomMessages (.ofReplies (.rows rows :: replies)) =
        match storedChanges rows with
        | .ok changes => runAgainst (named changes) ⟨.ok replies, [query]⟩
        | .error e => (.error e, ⟨.ok replies, [query]⟩)) ∧
      ∀ message, runAgainst clearRoomMessages (.ofReplies (.error message :: replies)) =
        (.error (storeError (.server message)), ⟨.ok replies, [query]⟩) := by
  obtain ⟨query, hquery⟩ : ∃ query, storedMessages = all storedMessage? query := ⟨_, rfl⟩
  refine ⟨query, fun replies => ⟨fun rows => ?_, fun message => ?_⟩⟩
  · rw [clearRoomMessages, runAgainst_bind, hquery, Server.ofReplies, runAgainst_all_rows,
      storedChanges]
    cases rows.mapM (readRow storedMessage?) with
    | error e => rfl
    | ok stored => rfl
  · rw [clearRoomMessages, runAgainst_bind, hquery, Server.ofReplies, runAgainst_all_error]
    rfl

/-- Nobody's name is asked for where nothing was sent. -/
theorem named_nil : named [] = return [] := rfl

/-- Otherwise there is one more query, with the rooms of the changes as its only parameter. -/
theorem exists_named_eq {changes : List Change} (h : changes ≠ []) :
    ∃ sql, named changes = do
      let names ← all memberName? ⟨sql, [.texts (sortedDistinct (changes.map Change.roomId))]⟩
      return History.currentMessages changes names := by
  have hrooms : sortedDistinct (changes.map Change.roomId) ≠ [] := by
    simpa [sortedDistinct_eq_nil_iff] using h
  obtain ⟨sql, hquery⟩ : ∃ sql, memberNames (sortedDistinct (changes.map Change.roomId)) =
      all memberName? ⟨sql, [.texts (sortedDistinct (changes.map Change.roomId))]⟩ :=
    ⟨_, if_neg (mt List.isEmpty_iff.1 hrooms)⟩
  exact ⟨sql, by rw [named, hquery]⟩

/-- The queries of a snapshot, by the rows that answer the first of them. -/
structure Asks (rows : List Row) (received : List Query) : Prop where
  oneOrTwo : received.length = 1 ∨ received.length = 2
  second : received.length = 2 ↔
    (∀ row ∈ rows, (storedMessage? row).isSome) ∧ ∃ row ∈ rows, ∃ roomId, Tells row roomId
  params : ∀ query, received[1]? = some query →
    ∃ ids, query.params = [.texts ids] ∧ ids.Pairwise (· < ·) ∧
      ∀ id, id ∈ ids ↔ ∃ row ∈ rows, Tells row id

/-- The rooms that rows tell of are those of the changes. -/
theorem exists_tells_iff {rows : List Row} {changes : List Change}
    (hmem : ∀ c, c ∈ changes ↔ ∃ row ∈ rows, ∃ m, storedMessage? row = some m ∧ m.change? = some c)
    (roomId : String) :
    (∃ row ∈ rows, Tells row roomId) ↔ roomId ∈ changes.map Change.roomId := by
  rw [List.mem_map]
  constructor
  · rintro ⟨row, hrow, htells⟩
    obtain ⟨m, c, hm, hc, hroom⟩ := tells_iff.1 htells
    exact ⟨c, (hmem c).2 ⟨row, hrow, m, hm, hc⟩, hroom⟩
  · rintro ⟨c, hc, hroom⟩
    obtain ⟨row, hrow, m, hm, hchange⟩ := (hmem c).1 hc
    exact ⟨row, hrow, tells_iff.2 ⟨m, c, hm, hchange, hroom⟩⟩

/-- Where all rows can be read, the second query is about the rooms of the changes, if there are
any. -/
theorem asks {rows : List Row} {changes : List Change}
    (hreadable : ∀ row ∈ rows, (storedMessage? row).isSome)
    (hmem : ∀ c, c ∈ changes ↔ ∃ row ∈ rows, ∃ m, storedMessage? row = some m ∧ m.change? = some c)
    (query : Query) :
    Asks rows (runAgainst (named changes) ⟨.ok replies, [query]⟩).2.received := by
  have htells := exists_tells_iff hmem
  by_cases hnil : changes = []
  · -- Nothing was sent or edited, so nobody's name is asked for.
    have hreceived : (runAgainst (named changes) ⟨.ok replies, [query]⟩).2.received = [query] := by
      rw [hnil]
      rfl
    have hnone : ¬ ∃ row ∈ rows, ∃ roomId, Tells row roomId := by
      rintro ⟨row, hrow, roomId, hrowTells⟩
      have hroom := (htells roomId).1 ⟨row, hrow, hrowTells⟩
      rw [hnil] at hroom
      simp at hroom
    rw [hreceived]
    exact ⟨.inl rfl, by simpa using fun _ => hnone, by simp⟩
  · obtain ⟨sql, hnamed⟩ := exists_named_eq hnil
    have hreceived : (runAgainst (named changes) ⟨.ok replies, [query]⟩).2.received =
        [query, ⟨sql, [.texts (sortedDistinct (changes.map Change.roomId))]⟩] := by
      rw [hnamed, snd_runAgainst_bind_pure, received_runAgainst_all]
      rfl
    -- Any of the changes is told by some row.
    obtain ⟨c, hc⟩ := List.exists_mem_of_ne_nil changes hnil
    have hsome : ∃ row ∈ rows, ∃ roomId, Tells row roomId := by
      obtain ⟨row, hrow, hrowTells⟩ := (htells c.roomId).2 (List.mem_map_of_mem hc)
      exact ⟨row, hrow, c.roomId, hrowTells⟩
    rw [hreceived]
    refine ⟨.inr rfl, by simpa using ⟨hreadable, hsome⟩, ?_⟩
    intro second hsecond
    obtain rfl := Option.some.inj hsecond
    refine ⟨_, rfl, pairwise_sortedDistinct _, fun id => ?_⟩
    rw [mem_sortedDistinct, htells]

/-- A second query that the server refuses ends the snapshot. -/
theorem value_of_second_refused {rows : List Row} {message : String} {rest : List Reply}
    (h : (runAgainst clearRoomMessages
      (.ofReplies (.rows rows :: .error message :: rest))).2.received.length = 2) :
    (runAgainst clearRoomMessages (.ofReplies (.rows rows :: .error message :: rest))).1 =
      .error (storeError (.server message)) := by
  obtain ⟨query, hcourse⟩ := exists_runAgainst_clearRoomMessages_eq
  obtain ⟨hrows, -⟩ := hcourse (.error message :: rest)
  rw [hrows] at h ⊢
  cases hchanges : storedChanges rows with
  | error e => simp [hchanges] at h
  | ok changes =>
    rw [hchanges] at h
    have hne : changes ≠ [] := by
      rintro rfl
      -- Without changes there would have been no second query.
      simp [named_nil, runAgainst, Course.run] at h
    obtain ⟨sql, hnamed⟩ := exists_named_eq hne
    show (runAgainst (named changes) _).1 = _
    rw [hnamed, runAgainst_bind, runAgainst_all_error]

/-- A row that the snapshot leaves out changes neither its queries nor what comes of it, wherever
it stands.  The second query asks for the members of just the rooms that some row tells of, each of
them once, and is not sent if there are none.  A query that the server refuses, the first or the
second, leaves nothing of the snapshot but the error. -/
theorem skipped_rows_change_nothing {rows padded : List Row} (h : Padded rows padded)
    (replies : List Reply) :
    let run := runAgainst clearRoomMessages (.ofReplies (.rows rows :: replies))
    runAgainst clearRoomMessages (.ofReplies (.rows padded :: replies)) = run ∧
      Asks rows run.2.received ∧
      (∀ message, replies.head? = some (.error message) → run.2.received.length = 2 →
        run.1 = .error (.database ("error returned from database: " ++ message))) ∧
      ∀ message,
        let refused := runAgainst clearRoomMessages (.ofReplies (.error message :: replies))
        refused.1 = .error (.database ("error returned from database: " ++ message)) ∧
          refused.2.received.length = 1 := by
  obtain ⟨query, hcourse⟩ := exists_runAgainst_clearRoomMessages_eq
  obtain ⟨hrows, hrefused⟩ := hcourse replies
  intro run
  have hpadded : runAgainst clearRoomMessages (.ofReplies (.rows padded :: replies)) = run := by
    rw [hrows, storedChanges_of_padded h, ← hrows]
  refine ⟨hpadded, ?_, ?_, ?_⟩
  · rcases storedChanges_spec rows with
      ⟨changes, hchanges, hreadable, hmem⟩ | ⟨herror, hunreadable⟩
    · have hrun : run = runAgainst (named changes) ⟨.ok replies, [query]⟩ := by
        simp only [run, hrows, hchanges]
      rw [hrun]
      exact asks hreadable hmem query
    · -- A row without the columns that were asked for ends the snapshot after the first query.
      have hrun : run = (.error (storeError .malformedRow), ⟨.ok replies, [query]⟩) := by
        simp only [run, hrows, herror]
      rw [hrun]
      refine ⟨.inl rfl, ?_, by simp⟩
      simp only [List.length_singleton]
      constructor
      · intro hlength
        cases hlength
      · rintro ⟨hreadable, -⟩
        exact absurd hreadable hunreadable
  · intro message hhead hlength
    obtain ⟨rest, rfl⟩ := List.head?_eq_some_iff.1 hhead
    exact value_of_second_refused hlength
  · intro message
    rw [hrefused]
    exact ⟨rfl, rfl⟩

/-- A stored message. -/
def helloRow : Row :=
  [.text "$1", .text "!r",
    .text "\x7b\"sender\":\"@ann\",\"content\":\x7b\"body\":\"hello\"\x7d\x7d"]

/-- A stored text that is no value. -/
def brokenRow : Row :=
  [.text "$2", .text "!s", .text "\x7bnot json"]

theorem skipped_brokenRow : Skipped brokenRow :=
  ⟨⟨"$2", "!s", "\x7bnot json"⟩, rfl, .inl (by decide +kernel)⟩

/-- Two broken rows around a message change neither the snapshot nor its queries. -/
theorem skipped_rows_change_nothing_broken :
    Padded [helloRow] [brokenRow, helloRow] ∧
      runAgainst clearRoomMessages (.ofReplies [.rows [brokenRow, helloRow], .error "down"]) =
        runAgainst clearRoomMessages (.ofReplies [.rows [helloRow], .error "down"]) ∧
      (runAgainst clearRoomMessages (.ofReplies [.rows [helloRow], .error "down"])).1 =
        .error (.database "error returned from database: down") := by
  have hpadded : Padded [helloRow] [brokenRow, helloRow] := .skip skipped_brokenRow (.keep .nil)
  obtain ⟨hrun, -, hsecond, -⟩ := skipped_rows_change_nothing hpadded [.error "down"]
  exact ⟨hpadded, hrun, hsecond "down" rfl (by decide +kernel)⟩

end Database

end ChatIndex
