import ChatIndex.Proofs.Agreement
import ChatIndex.Proofs.Requests

/-!
# The table of transitions

What each kind of change does to the indices, as a table that knows nothing of requests: a step on
all documents at once, which says what becomes of every document of every index.  Without faults,
handling an event takes exactly that step.  Nothing else than an edit of a missing message can
then be refused by the engine.

* `contents_apply`               carrying a change out takes the step of the table
* `against_eq_engine_error_iff`  the engine refuses the edit of a missing message, and nothing else
* `handle_takes_transition`      handling an event takes the step and logs its outcome
-/

namespace ChatIndex

/-! ## Contents of the indices -/

/-- Documents by index and id. -/
abbrev Contents : Type :=
  String → String → Option Document

namespace Contents

/-- Writes a document over any there is, or removes it. -/
def put (before : Contents) (index id : String) (d : Option Document) : Contents :=
  fun i k => if i = index ∧ k = id then d else before i k

/-- Changes or removes each document of an index. -/
def alter (before : Contents) (index : String) (f : Document → Option Document) : Contents :=
  fun i k => if i = index then (before i k).bind f else before i k

end Contents

/-- All documents of the engine. -/
def Memory.contents (m : Memory) : Contents :=
  m.document?

/-- What a change does to the documents of all indices. -/
def Change.transition (s : SyncSettings) (reads : Answers) (before : Contents) : Change → Contents
  | .roomNameChanged roomId name =>
    if reads.isClear roomId then
      before.put s.indices.rooms roomId
        (name.map fun name => RoomDocument.toDocument ⟨roomId, name⟩)
    else before
  | .roomEncrypted roomId _ =>
    (before.put s.indices.rooms roomId none).alter s.indices.messages fun d =>
      if d.get? "room_id" = some (.string roomId) then none else some d
  | .messageSent roomId eventId sender body =>
    match reads.message? roomId eventId sender body with
    | none => before
    | some message =>
      (before.put s.indices.messages eventId (some message.toDocument)).put s.indices.rooms roomId
        ((before s.indices.rooms roomId).or (reads.roomDocument? roomId))
  | .messageEdited _ target body =>
    before.put s.indices.messages target
      ((before s.indices.messages target).map (·.insert "content" (.string body)))
  | .messageRedacted _ eventId => before.put s.indices.messages eventId none
  | .displayNameChanged roomId userId displayName =>
    before.alter s.indices.messages fun d =>
      if d.get? "sender" = some (.string userId) ∧
          (s.displayNameScope = .room → d.get? "room_id" = some (.string roomId)) then
        some (d.insert "display_name" (.string displayName))
      else some d

/-! ## Requests -/

namespace Memory

variable (m : Memory)

theorem contents_deleteDocument (i id : String) :
    (m.deleteDocument i id).contents = m.contents.put i id none :=
  funext fun j => funext (document?_deleteDocument m i id j)

theorem contents_updateDocument (i id : String) (fields : Document) :
    (m.updateDocument i id fields).2.contents =
      m.contents.put i id ((m.contents i id).map (·.merge fields)) :=
  funext fun j => funext (document?_updateDocument m i id fields j)

theorem contents_deleteDocuments (i : String) (query : DocumentQuery) :
    (m.deleteDocuments i query).2.contents =
      m.contents.alter i fun d => if query.isMatch d then none else some d := by
  funext j id
  refine (document?_deleteDocuments m i query j id).trans ?_
  unfold Contents.alter
  split
  · next hj =>
    rw [hj, contents]
    cases m.document? i id with
    | none => rfl
    | some d => cases hmatch : query.isMatch d <;> simp [hmatch]
  · rfl

theorem contents_updateDocuments (i field : String) (value : Json) (query : DocumentQuery) :
    (m.updateDocuments i field value query).2.contents =
      m.contents.alter i fun d =>
        if query.isMatch d then some (d.insert field value) else some d := by
  funext j id
  refine (document?_updateDocuments m i field value query j id).trans ?_
  unfold Contents.alter
  split
  · next hj =>
    rw [hj, contents]
    cases m.document? i id with
    | none => rfl
    | some d => cases hmatch : query.isMatch d <;> simp [hmatch]
  · rfl

/-- A bulk request writes nothing to an index that it has no documents for. -/
theorem contents_indexDocuments_of_get?_eq_none {batch : BulkBatch} {i : String}
    (h : batch.get? i = none) (id : String) :
    (m.indexDocuments batch).2.contents i id = m.contents i id := by
  rw [contents, document?, documents_indexDocuments, h]
  rfl

/-- A bulk request that writes one document to an index, where the engine rejects no id. -/
theorem contents_indexDocuments_of_get?_eq_some {m : Memory} {batch : BulkBatch}
    {i id : String} {fields : Document} (hrefused : m.refused = [])
    (h : batch.get? i = some [⟨id, .index, fields⟩]) (k : String) :
    (m.indexDocuments batch).2.contents i k = if k = id then some fields else m.contents i k := by
  rw [contents, Sync.document?_indexDocuments_of_get?_eq_some h, hrefused]
  simp [contents]

/-- Nothing is rejected that is written over what there is. -/
private theorem writeAll_index {i : String} {ds : Index} {bs : List BulkDocument}
    (h : ∀ b ∈ bs, b.action = .index) : (writeAll [] i ds bs).2 = [] := by
  induction bs generalizing ds with
  | nil => rfl
  | cons b bs ih =>
    obtain ⟨hb, hbs⟩ := List.forall_mem_cons.1 h
    have hone : (writeOne [] i ds b).2 = [] := by simp [writeOne, hb]
    simp only [writeAll, hone, ih hbs, List.append_nil]

/-- Nothing of a batch is rejected that is written over what there is. -/
private theorem writeBatch_index {m : Memory} {es : List (String × List BulkDocument)}
    (hrefused : m.refused = []) (h : ∀ e ∈ es, ∀ b ∈ e.2, b.action = .index) :
    (m.writeBatch es).2 = [] := by
  induction es generalizing m with
  | nil => rfl
  | cons e es ih =>
    obtain ⟨he, hes⟩ := List.forall_mem_cons.1 h
    have hfirst : (writeAll [] e.1 (m.documents e.1) e.2).2 = [] := writeAll_index he
    have hrest :=
      ih (m := m.setDocuments e.1 (writeAll [] e.1 (m.documents e.1) e.2).1) hrefused hes
    simp only [writeBatch, hrefused, hfirst, hrest, List.append_nil]

/-- Documents that are written over any there are, are all accepted. -/
theorem indexDocuments_index {m : Memory} {batch : BulkBatch} (hrefused : m.refused = [])
    (h : ∀ e ∈ batch.entries, ∀ b ∈ e.2, b.action = .index) :
    (m.indexDocuments batch).1 = .ok () := by
  have hnone := writeBatch_index hrefused h
  -- The request fails only where something was rejected.
  unfold indexDocuments
  generalize m.writeBatch batch.entries = written at hnone
  obtain ⟨m', rejections⟩ := written
  cases hnone
  rfl

/-- What the engine carries out whatever it holds, it carries out. -/
theorem exists_answer_of_unconditional {m : Memory} {c : EngineCall} (hc : c.Unconditional)
    (hrefused : m.refused = []) : ∃ value, (m.answer c).1 = .ok value := by
  cases c with
  | createIndex => exact hc.elim
  | updateDocument => exact hc.elim
  | indexDocuments batch => exact ⟨(), indexDocuments_index hrefused hc⟩
  | _ => exact ⟨_, rfl⟩

end Memory

theorem DocumentQuery.isMatch_field_iff {name value : String} {d : Document} :
    (DocumentQuery.field name value).isMatch d = true ↔ d.get? name = some (.string value) := by
  simp [DocumentQuery.field, DocumentQuery.isMatch]

namespace Sync

open Attempt

variable {s : SyncSettings} {reads : Answers} {m : Memory}

/-- The messages that a new display name is written to. -/
theorem isMatch_displayNameQuery_iff {roomId userId : String} {d : Document} :
    (displayNameQuery s roomId userId).isMatch d = true ↔
      d.get? "sender" = some (.string userId) ∧
        (s.displayNameScope = .room → d.get? "room_id" = some (.string roomId)) := by
  unfold displayNameQuery
  cases s.displayNameScope with
  | everywhere => simp [DocumentQuery.isMatch_field_iff]
  | room => simp [DocumentQuery.field, DocumentQuery.and, DocumentQuery.isMatch]

/-- The bulk request for a message has nothing for any other index. -/
theorem get?_messageBatch_of_ne {message : MessageDocument} {room : RoomDetail} {indexed : Bool}
    {i : String} (hrooms : i ≠ s.indices.rooms) (hmessages : i ≠ s.indices.messages) :
    (messageBatch s message room indexed).get? i = none := by
  unfold messageBatch
  dsimp only
  split
  · split <;> simp [KeyMap.get?_insert, hrooms, hmessages]
  · simp [KeyMap.get?_insert, hmessages]

/-! ## The step of a change -/

/-- Without faults, carrying a change out takes the step of the table. -/
theorem contents_apply (hnames : s.indices.rooms ≠ s.indices.messages) (hrefused : m.refused = [])
    (c : Change) :
    (against reads (apply s c) m).2.contents = c.transition s reads m.contents := by
  cases c with
  | roomNameChanged roomId name =>
    rw [against_roomNameChanged, Change.transition]
    split
    · cases name with
      | none => exact Memory.contents_deleteDocument m s.indices.rooms roomId
      | some name =>
        -- The request has one document, for the rooms index, and nothing for the others.
        funext i k
        by_cases hi : i = s.indices.rooms
        · subst hi
          refine (Memory.contents_indexDocuments_of_get?_eq_some hrefused
            (by rw [KeyMap.get?_insert, if_pos rfl]; rfl) k).trans ?_
          simp [Contents.put]
        · refine (Memory.contents_indexDocuments_of_get?_eq_none m
            (by rw [KeyMap.get?_insert, if_neg hi]; rfl) k).trans ?_
          simp [Contents.put, hi]
    · rfl
  | roomEncrypted roomId algorithm =>
    rw [against_roomEncrypted, Memory.contents_deleteDocuments, Memory.contents_deleteDocument]
    simp only [DocumentQuery.isMatch_field_iff, Change.transition]
  | messageSent roomId eventId sender body =>
    rw [against_messageSent, Change.transition]
    cases hmessage : reads.message? roomId eventId sender body with
    | none => rfl
    | some message =>
      obtain ⟨displayName, room, -, -, hroom, -, rfl⟩ := message?_eq_some_iff.1 hmessage
      rw [hroom]
      dsimp only
      -- The request may write to both indices, so each is looked at by itself.
      funext i k
      by_cases hi : i = s.indices.rooms
      · subst hi
        refine (document?_messageBatch_rooms hnames _ room k).trans ?_
        rw [roomDocument?_of_ok hroom, hrefused]
        by_cases hk : k = roomId <;> simp [Contents.put, Memory.contents, hk, hnames]
      · by_cases hi' : i = s.indices.messages
        · subst hi'
          refine (Memory.contents_indexDocuments_of_get?_eq_some hrefused
            (get?_messageBatch_messages hnames _ room _) k).trans ?_
          simp [Contents.put, hi]
        · refine (Memory.contents_indexDocuments_of_get?_eq_none m
            (get?_messageBatch_of_ne hi hi') k).trans ?_
          simp [Contents.put, hi, hi']
  | messageEdited roomId target body =>
    rw [apply, onMessageEdited, against_engine_last, Memory.answer, Memory.contents_updateDocument]
    simp only [KeyMap.merge_insert_empty, Change.transition]
  | messageRedacted roomId eventId =>
    rw [apply, onMessageRedacted, against_engine_last, Memory.answer]
    exact Memory.contents_deleteDocument m s.indices.messages eventId
  | displayNameChanged roomId userId displayName =>
    rw [against_displayNameChanged, Memory.contents_updateDocuments]
    simp only [isMatch_displayNameQuery_iff, Change.transition]

end Sync

/-! ## Refusals -/

namespace Attempt

/-- An attempt that the engine refuses nothing of as long as it rejects no ids: without faults it
can fail with what the read model says only. -/
def Unrefused {α : Type} (reads : Answers) (x : Attempt CallError α) : Prop :=
  ∀ m : Memory, m.refused = [] → ∀ e, (against reads x m).1 ≠ .error (.engine e)

namespace Unrefused

variable {α β : Type} {reads : Answers} {x : Attempt CallError α} {f : α → Attempt CallError β}

theorem pure (a : α) : (Pure.pure a : Attempt CallError α).Unrefused reads := by
  intro m _ e h
  cases h

theorem record (level : LogLevel) (message : String) (fields : List (String × String)) :
    (record level message fields : Attempt CallError Unit).Unrefused reads := by
  intro m _ e h
  cases h

theorem read (c : ReadCall) : (read c).Unrefused reads := by
  intro m _ e h
  rw [against_read] at h
  cases hread : reads c with
  | error failure => rw [hread] at h; cases h
  | ok value => rw [hread] at h; cases h

/-- A request that is always carried out is not refused. -/
theorem engine {c : EngineCall}
    (hc : ∀ m : Memory, m.refused = [] → ∃ value, (m.answer c).1 = .ok value) :
    (engine c).Unrefused reads := by
  intro m hrefused e h
  obtain ⟨value, hvalue⟩ := hc m hrefused
  rw [against_engine, hvalue] at h
  cases h

/-- Of two attempts one after the other nothing is refused if nothing of either is. -/
theorem bind (hx : x.Unrefused reads) (hf : ∀ a, (f a).Unrefused reads) :
    (x >>= f).Unrefused reads := by
  intro m hrefused e h
  -- What the second attempt starts from rejects no ids either.
  have hrest : (against reads x m).2.refused = [] :=
    (Memory.refused_run x.run m).trans hrefused
  have hfirst := hx m hrefused
  rw [against_bind] at h
  generalize against reads x m = outcome at h hrest hfirst
  obtain ⟨failure | a, m'⟩ := outcome
  · cases h
    exact hfirst e rfl
  · exact hf a m' hrest e h

end Unrefused

end Attempt

namespace Sync

open Attempt

variable {s : SyncSettings} {reads : Answers} {m : Memory}

/-- The engine refuses nothing of a change that is no edit. -/
theorem unrefused_apply {c : Change}
    (hedit : ∀ roomId target body, c ≠ .messageEdited roomId target body) :
    (apply s c).Unrefused reads :=
  apply_induction c Unrefused.pure Unrefused.record Unrefused.read
    (fun _ hcall => .engine fun _ hrefused => Memory.exists_answer_of_unconditional hcall hrefused)
    (fun roomId target body heq => absurd heq (hedit roomId target body)) Unrefused.bind

/-- Without faults, the one thing that the engine refuses is an edit of a missing message. -/
theorem against_eq_engine_error_iff (hrefused : m.refused = []) (c : Change) (e : EngineError) :
    (against reads (apply s c) m).1 = .error (.engine e) ↔
      e = .status 404 "document_missing_exception" ∧ ∃ roomId target body,
        c = .messageEdited roomId target body ∧ m.contents s.indices.messages target = none := by
  by_cases hedit : ∃ roomId target body, c = .messageEdited roomId target body
  · -- An edit asks for one thing, so the engine's answer is the outcome.
    obtain ⟨roomId, target, body, rfl⟩ := hedit
    rw [apply, onMessageEdited, against_bind, against_engine, Memory.answer, Memory.contents]
    -- The engine merges into a document that is there and refuses to make a new one.
    cases hd : m.document? s.indices.messages target with
    | none =>
      rw [Memory.updateDocument_of_none _ hd]
      constructor
      · intro h
        cases h
        exact ⟨rfl, roomId, target, body, rfl, hd⟩
      · rintro ⟨rfl, -⟩
        rfl
    | some d =>
      rw [Memory.updateDocument_of_some _ hd]
      refine iff_of_false (fun h => ?_) ?_
      · cases h
      · rintro ⟨-, roomId', target', body', heq, hnone⟩
        cases heq
        rw [hd] at hnone
        cases hnone
  · refine iff_of_false (unrefused_apply (fun roomId target body heq => ?_) m hrefused e) ?_
    · exact hedit ⟨roomId, target, body, heq⟩
    · rintro ⟨-, roomId, target, body, heq, -⟩
      exact hedit ⟨roomId, target, body, heq⟩

/-! ## Events -/

/-- Without faults, handling an event takes exactly the step that the table has for its change, and
logs last what became of it; the engine refuses the edit of a message that is not there, and
nothing else. -/
theorem handle_takes_transition {event : RoomEvent} {c : Change}
    (hnames : s.indices.rooms ≠ s.indices.messages) (hrefused : m.refused = [])
    (hchange : event.change? = .ok (some c)) :
    let run := (handle s event).run (Memory.handler reads) m
    let result := (against reads (apply s c) m).1
    run.state.contents = c.transition s reads m.contents ∧
      run.logs.getLast? = some (outcomeRecord event c result) ∧
      ∀ e, result = .error (.engine e) ↔
        e = .status 404 "document_missing_exception" ∧ ∃ roomId target body,
          c = .messageEdited roomId target body ∧
            m.contents s.indices.messages target = none := by
  intro run result
  refine ⟨?_, ?_, against_eq_engine_error_iff hrefused c⟩
  · have hstate := deliver_of_change (s := s) (d := ⟨event, reads⟩) hchange m
    rw [deliver] at hstate
    rw [hstate]
    exact contents_apply hnames hrefused c
  · have hlogs : run.logs =
        ((apply s c).run.run (Memory.handler reads) m).logs ++ [outcomeRecord event c result] := by
      -- The outcome is logged when all requests are done.
      simp only [run, handle, hchange, Course.run_bind]
      rfl
    rw [hlogs, List.getLast?_concat]

/-- An edit that arrives before its message. -/
def earlyEdit : RoomEvent :=
  sampleMessage "$2" "@ann" (editContent "$1" "make it seven")

/-- The edit of a missing message changes nothing, and it is what the engine refuses. -/
theorem handle_takes_transition_earlyEdit :
    let c : Change := .messageEdited "!r" "$1" "make it seven"
    ((handle .plain earlyEdit).run (Memory.handler (.clear [])) .empty).state.contents =
        c.transition .plain (.clear []) Memory.empty.contents ∧
      (against (.clear []) (apply .plain c) .empty).1 =
        .error (.engine (.status 404 "document_missing_exception")) := by
  intro c
  have hchange : earlyEdit.change? = .ok (some c) := rfl
  have hnames : SyncSettings.plain.indices.rooms ≠ SyncSettings.plain.indices.messages := by decide
  have hrefused : Memory.empty.refused = [] := rfl
  obtain ⟨hcontents, -, hrefusal⟩ := handle_takes_transition hnames hrefused hchange
  exact ⟨hcontents, (hrefusal _).2 ⟨rfl, "!r", "$1", "make it seven", rfl, rfl⟩⟩

end Sync

end ChatIndex
