import ChatIndex.Proofs.Faultless
import ChatIndex.Proofs.Restoring

/-!
# What a backfill leaves without faults

Documents with ids of their own are all created, whatever the size of the batches they are sent
in, so that an engine without indices holds just the two snapshots in the end.

* `against_sendAll_eq`           batches come to what one request with all their documents would
* `against_sendAll`              what batches of new documents leave
* `against_ensureFilled_missing` what making sure of a missing index comes to
* `against_run`                  what creating and filling both indices leaves
-/

namespace ChatIndex

/-! ## Bulk requests -/

/-- An index with documents written into it, one after the other. -/
def Index.written (ds : Index) (bs : List BulkDocument) : Index :=
  bs.foldl (fun ds b => ds.insert b.id b.fields) ds

/-- Where the ids are distinct each document is found under its own, and everything else is found as
before. -/
theorem Index.get?_written {bs : List BulkDocument} (hnodup : (bs.map (·.id)).Nodup)
    (ds : Index) (id : String) :
    (ds.written bs).get? id = ((bs.find? (·.id = id)).map (·.fields)).or (ds.get? id) := by
  induction bs generalizing ds with
  | nil => simp [written]
  | cons b bs ih =>
    rw [List.map_cons, List.nodup_cons] at hnodup
    obtain ⟨hb, hnodup⟩ := hnodup
    have hcons : ds.written (b :: bs) = Index.written (ds.insert b.id b.fields) bs := rfl
    rw [hcons, ih hnodup, KeyMap.get?_insert]
    by_cases hid : b.id = id
    · -- No later document has the id of this one.
      have hnone : bs.find? (·.id = id) = none := by
        rw [List.find?_eq_none]
        intro c hc hcid
        have hcid : c.id = id := by simpa using hcid
        exact hb (List.mem_map.2 ⟨c, hc, hcid.trans hid.symm⟩)
      rw [hnone, List.find?_cons_of_pos (by simpa using hid), if_pos hid.symm]
      simp
    · rw [List.find?_cons_of_neg (by simpa using hid), if_neg (Ne.symm hid)]

namespace Memory

/-- Documents whose ids are new, each with an id of its own, are all written. -/
theorem writeAll_new {i : String} {bs : List BulkDocument} {ds : Index}
    (hnodup : (bs.map (·.id)).Nodup) (hnew : ∀ b ∈ bs, ds.get? b.id = none) :
    writeAll [] i ds bs = (ds.written bs, []) := by
  induction bs generalizing ds with
  | nil => rfl
  | cons b bs ih =>
    rw [List.map_cons, List.nodup_cons] at hnodup
    obtain ⟨hb, hnodup⟩ := hnodup
    have hone : writeOne [] i ds b = (ds.insert b.id b.fields, []) := by
      -- Nothing is rejected, and the id is not there, so the document is inserted.
      simp [writeOne, KeyMap.contains, hnew b List.mem_cons_self]
    have hnew' : ∀ c ∈ bs, (ds.insert b.id b.fields).get? c.id = none := by
      intro c hc
      have hcb : c.id ≠ b.id := fun heq => hb (List.mem_map.2 ⟨c, hc, heq⟩)
      rw [KeyMap.get?_insert, if_neg hcb]
      exact hnew c (List.mem_cons_of_mem _ hc)
    simp only [writeAll, hone, ih hnodup hnew', List.append_nil]
    rfl

/-- A document that is there stays as it is when others are created. -/
theorem get?_writeOne_create {refused : List String} {i id : String} {ds : Index}
    {b : BulkDocument} {d : Document} (hb : b.action = .create) (hd : ds.get? id = some d) :
    (writeOne refused i ds b).1.get? id = some d := by
  unfold writeOne
  split
  · exact hd
  · split
    · exact hd
    · next hnew =>
      rw [KeyMap.get?_insert]
      split
      · -- It has the id of a document that is there, so it would not have been created.
        next hid =>
        have hcontains : ds.contains b.id = true := (KeyMap.contains_iff ds b.id).2 ⟨d, hid ▸ hd⟩
        exact absurd ⟨hb, hcontains⟩ hnew
      · exact hd

/-- The same of a list of documents that are created. -/
theorem get?_writeAll_create {refused : List String} {i id : String} {bs : List BulkDocument}
    {ds : Index} {d : Document} (hbs : ∀ b ∈ bs, b.action = .create) (hd : ds.get? id = some d) :
    (writeAll refused i ds bs).1.get? id = some d := by
  induction bs generalizing ds with
  | nil => exact hd
  | cons b bs ih =>
    refine ih (fun c hc => hbs c (List.mem_cons_of_mem b hc)) ?_
    exact get?_writeOne_create (hbs b List.mem_cons_self) hd

/-- A document that is not rejected is written. -/
theorem get?_writeOne_accepted {refused : List String} {i : String} {ds : Index} {b : BulkDocument}
    (haccepted : (writeOne refused i ds b).2 = []) :
    (writeOne refused i ds b).1.get? b.id = some b.fields := by
  unfold writeOne at haccepted ⊢
  split
  · next hrefused => rw [if_pos hrefused] at haccepted; exact nomatch haccepted
  · next hrefused =>
    rw [if_neg hrefused] at haccepted
    split
    · next hthere => rw [if_pos hthere] at haccepted; exact nomatch haccepted
    · rw [KeyMap.get?_insert, if_pos rfl]

/-- Documents that are created without a rejection are all there. -/
theorem get?_writeAll_accepted {refused : List String} {i : String} {bs : List BulkDocument}
    {ds : Index} (hbs : ∀ b ∈ bs, b.action = .create)
    (haccepted : (writeAll refused i ds bs).2 = []) :
    ∀ b ∈ bs, (writeAll refused i ds bs).1.get? b.id = some b.fields := by
  induction bs generalizing ds with
  | nil => exact fun b hb => absurd hb List.not_mem_nil
  | cons b bs ih =>
    have hbs' : ∀ c ∈ bs, c.action = .create := fun c hc => hbs c (List.mem_cons_of_mem b hc)
    have haccepted : (writeOne refused i ds b).2 ++
        (writeAll refused i (writeOne refused i ds b).1 bs).2 = [] := haccepted
    obtain ⟨hone, hrest⟩ := List.append_eq_nil_iff.1 haccepted
    refine List.forall_mem_cons.2 ⟨?_, ih hbs' hrest⟩
    -- The first document is written, and those behind it do not take its place.
    show (writeAll refused i (writeOne refused i ds b).1 bs).1.get? b.id = some b.fields
    exact get?_writeAll_create hbs' (get?_writeOne_accepted hone)

/-- A list of documents is written as one list, wherever it is cut in two. -/
theorem writeAll_append (refused : List String) (i : String) (ds : Index)
    (bs cs : List BulkDocument) :
    writeAll refused i ds (bs ++ cs) =
      ((writeAll refused i (writeAll refused i ds bs).1 cs).1,
        (writeAll refused i ds bs).2 ++
          (writeAll refused i (writeAll refused i ds bs).1 cs).2) := by
  induction bs generalizing ds with
  | nil => rfl
  | cons b bs ih => simp only [List.cons_append, writeAll, ih, List.append_assoc]

/-- Of two sets of documents for one index the second one stays. -/
theorem setDocuments_setDocuments (m : Memory) (i : String) (ds es : Index) :
    (m.setDocuments i ds).setDocuments i es = m.setDocuments i es := by
  simp only [setDocuments, KeyMap.insert_insert]

/-- A bulk request to one index fails just if it has rejections to report. -/
theorem indexDocuments_insert_empty (m : Memory) (i : String) (bs : List BulkDocument) :
    m.indexDocuments (KeyMap.empty.insert i bs) =
      (if (writeAll m.refused i (m.documents i) bs).2 = [] then .ok ()
        else .error (.bulkFailure (writeAll m.refused i (m.documents i) bs).2),
       m.setDocuments i (writeAll m.refused i (m.documents i) bs).1) := by
  have hwrite : m.writeBatch (KeyMap.empty.insert i bs).entries =
      (m.setDocuments i (writeAll m.refused i (m.documents i) bs).1,
        (writeAll m.refused i (m.documents i) bs).2) := by
    have hentries : (KeyMap.empty.insert i bs).entries = [(i, bs)] := rfl
    simp only [hentries, writeBatch, List.append_nil]
  rw [indexDocuments, hwrite]
  cases (writeAll m.refused i (m.documents i) bs).2 with
  | nil => rfl
  | cons rejection rejections => rfl

end Memory

/-! ## Batches -/

namespace Bootstrap

open Attempt

variable {reads : Answers}

/-- Without batches there is nothing to write, so both cases leave the same. -/
private theorem setDocuments_flatten (m : Memory) (refused : List String) (index : String)
    (ds : Index) (batches : List (List BulkDocument)) :
    (if batches = [] then m.setDocuments index ds
      else m.setDocuments index (Memory.writeAll refused index ds batches.flatten).1) =
      m.setDocuments index (Memory.writeAll refused index ds batches.flatten).1 := by
  split
  · next hempty =>
    rw [hempty]
    rfl
  · rfl

/-- What batches leave, and what they reject, is what one request with all their documents would:
without batches there is no request. -/
theorem against_sendAll_eq (index : String) (batches : List (List BulkDocument)) (m : Memory) :
    against reads (sendAll index batches) m =
      (.ok (Memory.writeAll m.refused index (m.documents index) batches.flatten).2,
        if batches = [] then m else
          m.setDocuments index
            (Memory.writeAll m.refused index (m.documents index) batches.flatten).1) := by
  induction batches generalizing m with
  | nil => rfl
  | cons batch batches ih =>
    -- What the first batch leaves is what the next ones find.
    have hdocuments := Memory.documents_setDocuments m index index
      (Memory.writeAll m.refused index (m.documents index) batch).1
    rw [if_pos rfl] at hdocuments
    rw [if_neg (List.cons_ne_nil _ _), List.flatten_cons, Memory.writeAll_append, sendAll,
      against_bind, against_tryEngine]
    simp only [Memory.answer, Memory.indexDocuments_insert_empty]
    have hrest := ih (m.setDocuments index
      (Memory.writeAll m.refused index (m.documents index) batch).1)
    rw [Memory.refused_setDocuments, hdocuments, Memory.setDocuments_setDocuments,
      setDocuments_flatten] at hrest
    -- Whether its batch was rejected in part or not, the sending goes on.
    by_cases haccepted : (Memory.writeAll m.refused index (m.documents index) batch).2 = []
    · rw [if_pos haccepted, haccepted, List.nil_append]
      exact hrest
    · rw [if_neg haccepted]
      simp only [against_bind, against_record, hrest, against_pure]

/-- Sending batches changes the documents of the index and nothing else. -/
theorem documents_of_against_sendAll {index : String} {batches : List (List BulkDocument)}
    {m m' : Memory} {r : Except CallError (List Rejection)}
    (h : against reads (sendAll index batches) m = (r, m')) :
    m'.documents index =
        (Memory.writeAll m.refused index (m.documents index) batches.flatten).1 ∧
      (∀ i, i ≠ index → m'.indices.get? i = m.indices.get? i) ∧
      m'.refused = m.refused ∧ m'.preseed = m.preseed := by
  rw [against_sendAll_eq] at h
  obtain ⟨-, rfl⟩ := Prod.mk.inj h
  split
  · next hempty =>
    rw [hempty]
    exact ⟨rfl, fun _ _ => rfl, rfl, rfl⟩
  · refine ⟨?_, fun i hi => (KeyMap.get?_insert ..).trans (if_neg hi), rfl, rfl⟩
    rw [Memory.documents_setDocuments, if_pos rfl]

/-- Batches of new documents are all written. -/
theorem against_sendAll {index : String} {batches : List (List BulkDocument)} {m : Memory}
    (hrefused : m.refused = []) (hnodup : (batches.flatten.map (·.id)).Nodup)
    (hnew : ∀ b ∈ batches.flatten, m.document? index b.id = none) :
    ∃ m', against reads (sendAll index batches) m = (.ok [], m') ∧
      m'.documents index = (m.documents index).written batches.flatten ∧
      (∀ i, i ≠ index → m'.indices.get? i = m.indices.get? i) ∧
      m'.refused = [] ∧ m'.preseed = m.preseed := by
  have hwrite := Memory.writeAll_new (i := index) hnodup hnew
  rw [← hrefused] at hwrite
  obtain ⟨m', hrun⟩ : ∃ m', against reads (sendAll index batches) m = (.ok [], m') :=
    ⟨_, by rw [against_sendAll_eq, hwrite]⟩
  obtain ⟨hdocuments, hothers, hrefused', hseed⟩ := documents_of_against_sendAll hrun
  rw [hwrite] at hdocuments
  exact ⟨m', hrun, hdocuments, hothers, hrefused'.trans hrefused, hseed⟩

/-! ## Both indices -/

section Filling

variable {batchSize : Nat} {index : String} {mapping : Json} {snapshot : ReadCall}
  {entries : snapshot.Value → List BulkDocument} {m : Memory}

/-- An index that is there is left alone. -/
theorem against_ensureFilled_present (hpresent : m.indices.contains index = true) :
    against reads (ensureFilled batchSize index mapping snapshot entries) m = (.ok none, m) := by
  have hexists : m.answer (.indexExists index) = (.ok true, m) := by
    rw [Memory.answer, hpresent]
  rw [ensureFilled, ensureIndex, against_bind, against_engine_bind hexists]
  rfl

/-- A missing index is created, with what it holds from then on, and filled from the snapshot. -/
theorem against_ensureFilled_missing {rows : snapshot.Value}
    (hmissing : m.indices.contains index = false) (hrows : reads snapshot = .ok rows) :
    against reads (ensureFilled batchSize index mapping snapshot entries) m =
      against reads (backfill batchSize index (entries rows) >>= fun written => pure (some written))
        (m.setDocuments index ((m.preseed.get? index).getD .empty)) := by
  have hexists : m.answer (.indexExists index) = (.ok false, m) := by
    rw [Memory.answer, hmissing]
  have hcreated : m.answer (.createIndex index mapping) =
      (.ok (), m.setDocuments index ((m.preseed.get? index).getD .empty)) := by
    simp [Memory.answer, Memory.createIndex, hmissing]
  -- Two requests make sure of the index: the first finds it missing, the second creates it.
  have hensure : against reads (ensureIndex index mapping) m =
      (.ok true, m.setDocuments index ((m.preseed.get? index).getD .empty)) := by
    rw [ensureIndex, against_engine_bind hexists, if_neg (by decide),
      against_engine_bind hcreated]
    rfl
  rw [ensureFilled, against_bind, hensure]
  dsimp only
  rw [if_pos rfl, against_read_bind hrows]

/-- A missing index is created and filled with the whole snapshot. -/
theorem against_filling {rows : snapshot.Value} (hrows : reads snapshot = .ok rows)
    (hnodup : ((entries rows).map (·.id)).Nodup) (hmissing : m.indices.get? index = none)
    (hrefused : m.refused = []) (hseed : m.preseed = .empty) :
    ∃ m', against reads (ensureFilled batchSize index mapping snapshot entries) m =
        (.ok (some (entries rows).length), m') ∧
      m'.documents index = Index.written .empty (entries rows) ∧
      (∀ i, i ≠ index → m'.indices.get? i = m.indices.get? i) ∧
      m'.refused = [] ∧ m'.preseed = .empty := by
  have hcontains : m.indices.contains index = false := by rw [KeyMap.contains, hmissing]; rfl
  -- Nothing is written before the index is there, so every document is new to it.
  have hempty : (m.setDocuments index .empty).documents index = .empty := by
    rw [Memory.documents_setDocuments, if_pos rfl]
  have hflatten := flatten_chunks (max batchSize 1) (entries rows)
  have hrefused₁ : (m.setDocuments index .empty).refused = [] := hrefused
  have hnodup₁ : ((chunks (max batchSize 1) (entries rows)).flatten.map (·.id)).Nodup := by
    rwa [hflatten]
  have hnew : ∀ b ∈ (chunks (max batchSize 1) (entries rows)).flatten,
      (m.setDocuments index .empty).document? index b.id = none := by
    intro b _
    rw [Memory.document?, hempty, KeyMap.get?_empty]
  obtain ⟨m', hrun, hdocuments, hothers, hrefused', hseed'⟩ :
      ∃ m', against reads (sendAll index (chunks (max batchSize 1) (entries rows)))
        (m.setDocuments index .empty) = (.ok [], m') ∧ _ :=
    against_sendAll hrefused₁ hnodup₁ hnew
  refine ⟨m', ?_, ?_, ?_, hrefused', hseed'.trans hseed⟩
  · rw [against_ensureFilled_missing hcontains hrows, hseed, KeyMap.get?_empty, Option.getD_none,
      against_bind, backfill, against_bind, hrun]
    rfl
  · rw [hdocuments, hempty, hflatten]
  · intro i hi
    rw [hothers i hi]
    exact (KeyMap.get?_insert ..).trans (if_neg hi)

end Filling

/-- An engine without indices holds just the two snapshots after a run without faults. -/
theorem against_run {batchSize : Nat} {names : IndexNames} {rooms : List RoomName}
    {messages : List RoomMessage} {m : Memory} (hnames : names.rooms ≠ names.messages)
    (hrooms : reads .clearRoomNames = .ok rooms) (hroomIds : (rooms.map (·.roomId)).Nodup)
    (hmessages : reads .clearRoomMessages = .ok messages)
    (heventIds : (messages.map (·.eventId)).Nodup)
    (hindices : m.indices = .empty) (hrefused : m.refused = []) (hseed : m.preseed = .empty) :
    ∃ m', against reads (run batchSize names) m =
        (.ok (report names (some rooms.length) (some messages.length)), m') ∧
      m'.documents names.rooms = Index.written .empty (rooms.map roomEntry) ∧
      m'.documents names.messages = Index.written .empty (messages.map messageEntry) := by
  have hmissing : ∀ i, m.indices.get? i = none := fun i => by rw [hindices, KeyMap.get?_empty]
  have hroomsNodup : ((rooms.map roomEntry).map (·.id)).Nodup := by
    rw [List.map_map]
    exact hroomIds
  have hmessagesNodup : ((messages.map messageEntry).map (·.id)).Nodup := by
    rw [List.map_map]
    exact heventIds
  -- The rooms first; that leaves the messages index missing, as it was.
  obtain ⟨m₁, hrun₁, hdocuments₁, hothers₁, hrefused₁, hseed₁⟩ :=
    against_filling hrooms hroomsNodup (hmissing _) hrefused hseed
  have hmissing₁ : m₁.indices.get? names.messages = none :=
    (hothers₁ _ (Ne.symm hnames)).trans (hmissing _)
  obtain ⟨m₂, hrun₂, hdocuments₂, hothers₂, -, -⟩ :=
    against_filling hmessages hmessagesNodup hmissing₁ hrefused₁ hseed₁
  have hrun₁ : against reads (ensureRooms batchSize names) m = (.ok (some rooms.length), m₁) := by
    rw [← List.length_map roomEntry]
    exact hrun₁
  have hrun₂ :
      against reads (ensureMessages batchSize names) m₁ = (.ok (some messages.length), m₂) := by
    rw [← List.length_map messageEntry]
    exact hrun₂
  refine ⟨m₂, ?_, ?_, hdocuments₂⟩
  · rw [run, against_bind, hrun₁]
    dsimp only
    rw [against_bind, hrun₂]
    rfl
  · -- Filling the messages index leaves the rooms index as it is.
    rw [Memory.documents, hothers₂ _ hnames]
    exact hdocuments₁

end Bootstrap

end ChatIndex
