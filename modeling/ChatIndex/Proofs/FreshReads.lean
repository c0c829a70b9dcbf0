import ChatIndex.Proofs.Requests

/-!
# What is written was read right before

Between the answer that a room is clear and the bulk request that writes for it, nothing else is
asked, whatever the two sides answer and however often they change their minds: no request to
write can come from an older answer.  A message is written only after the read model has said as
well that it is not redacted, one change makes one bulk request at most, and the documents of that
request are those of the room that the change comes from.  A failure ends the course of requests.

* `Handling.writes_last`        the one request that writes is the last one, and gated
* `halts_apply`                 nothing is asked after a failure
* `writes_gated_by_fresh_reads` both, of any exchanges
-/

namespace ChatIndex

/-- Whether a bulk entry for an index is the document of a room or that of one of its messages. -/
def BulkDocument.OfRoom (names : IndexNames) (roomId index : String) (b : BulkDocument) : Prop :=
  (index = names.rooms ∧ b.id = roomId) ∨
    (index = names.messages ∧ b.fields.get? "room_id" = some (.string roomId))

namespace Sync

open Attempt

/-- Whether a bulk request for a change may be made after these exchanges: the last of them says
that the room is clear, a message is not on record as redacted, and all documents are of the
room. -/
structure Gated (s : SyncSettings) (c : Change) (before : List Exchange) (batch : BulkBatch) :
    Prop where
  clear : ∃ earlier room, before = earlier ++ [⟨.read (.roomDetail c.roomId), .ok room⟩] ∧
    RoomDetail.isClear room = true
  current : ∀ roomId eventId sender body, c = .messageSent roomId eventId sender body →
    (⟨.read (.isRedacted eventId), .ok false⟩ : Exchange) ∈ before
  own : ∀ e ∈ batch.entries, ∀ b ∈ e.2, b.OfRoom s.indices c.roomId e.1

variable {s : SyncSettings} {c : Change} {es : List Exchange} {ls : List LogRecord}
  {r : Except CallError SyncOutcome}

/-! ## The request that writes -/

/-- All documents of a message's bulk request are of the message's room. -/
private theorem ofRoom_of_mem_messageBatch {message : MessageDocument} {room : RoomDetail}
    {indexed : Bool} :
    ∀ e ∈ (messageBatch s message room indexed).entries,
      ∀ b ∈ e.2, b.OfRoom s.indices message.roomId e.1 := by
  intro e he b hb
  -- One entry for the message, and one for its room if the room goes with it.
  obtain rfl | ⟨name, rfl⟩ := mem_messageBatch he
  · cases List.mem_singleton.1 hb
    exact .inr ⟨rfl, message.get?_toDocument_roomId⟩
  · cases List.mem_singleton.1 hb
    exact .inl ⟨rfl, rfl⟩

/-- A change that writes does so with its last request, and nothing comes between that request and
the answer that the room is clear. -/
theorem Handling.writes_last (h : Handling s c es ls r) :
    (∀ batch, .indexDocuments batch ∉ engineCalls es) ∨
      ∃ before batch answer, es = before ++ [⟨.engine (.indexDocuments batch), answer⟩] ∧
        (∀ batch', .indexDocuments batch' ∉ engineCalls before) ∧ Gated s c before batch := by
  cases h with
  | named roomId name room answer hclear =>
    refine .inr ⟨[⟨.read (.roomDetail roomId), .ok room⟩], _, answer, rfl, by simp [engineCalls],
      ⟨[], room, rfl, hclear⟩, ?_, ?_⟩
    · -- A rename is no message.
      intro roomId' eventId sender body heq
      cases heq
    · intro e he b hb
      cases List.mem_singleton.1 he
      cases List.mem_singleton.1 hb
      exact .inl ⟨rfl, rfl⟩
  | written roomId eventId sender body displayName indexed room answer hclear =>
    -- The room is asked for last, after the question whether the message is redacted.
    let earlier : List Exchange :=
      [⟨.read (.displayName roomId sender), .ok displayName⟩,
       ⟨.engine (.documentExists s.indices.rooms roomId), .ok indexed⟩,
       ⟨.read (.isRedacted eventId), .ok false⟩]
    refine .inr ⟨earlier ++ [⟨.read (.roomDetail roomId), .ok room⟩], _, answer, rfl,
      by simp [earlier, engineCalls], ⟨earlier, room, rfl, hclear⟩, ?_, ofRoom_of_mem_messageBatch⟩
    intro roomId' eventId' sender' body' heq
    cases heq
    simp [earlier]
  -- All other ways end without a bulk request.
  | _ => exact .inl (by simp [engineCalls, renameCall, editCall, removalCall, displayNameCall])

/-! ## Failures -/

/-- Nothing is asked after a failure, and it is what becomes of the change. -/
theorem halts_apply (s : SyncSettings) (c : Change) : (apply s c).Halts :=
  apply_induction c Halts.pure Halts.record (fun call => .ask (.read call))
    (fun call _ => .ask (.engine call)) (fun _ _ _ _ => .ask (.engine _)) Halts.bind

/-! ## Both -/

/-- Whatever is answered while a change is carried out: a bulk request comes directly after the
answer that the room of the change is clear, for a message also after the answer that it is not
redacted, it writes documents of that room only and is the only one; and nothing is asked after a
failure, which is what becomes of the change. -/
theorem writes_gated_by_fresh_reads (h : (apply s c).run.Ends es ls r) :
    (∀ before batch answer after,
      es = before ++ ⟨.engine (.indexDocuments batch), answer⟩ :: after →
        Gated s c before batch ∧
          ∀ batch', .indexDocuments batch' ∉ engineCalls (before ++ after)) ∧
      ∀ before (call : Call) (failure : call.Failure) after,
        es = before ++ ⟨call, .error failure⟩ :: after →
          after = [] ∧ r = .error (call.toCallError failure) := by
  constructor
  · rintro before batch answer after rfl
    obtain hnone | ⟨before', batch', answer', hes, hbefore', hgated⟩ :=
      (handling_of_ends_apply h).writes_last
    · exact absurd (mem_engineCalls_iff.2 ⟨answer, by simp⟩) (hnone batch)
    · -- The request is the last one, for there is no other before that.
      obtain rfl | ⟨after, e, rfl⟩ := List.eq_nil_or_concat after
      · obtain ⟨rfl, hlast⟩ := List.append_inj' hes rfl
        cases hlast
        rw [List.append_nil]
        exact ⟨hgated, hbefore'⟩
      · have hes : (before ++ ⟨.engine (.indexDocuments batch), answer⟩ :: after) ++ [e] =
            before' ++ [⟨.engine (.indexDocuments batch'), answer'⟩] := by
          simpa using hes
        obtain ⟨rfl, -⟩ := List.append_inj' hes rfl
        -- Otherwise the request would stand in front of the one that writes.
        exact absurd (mem_engineCalls_iff.2 ⟨answer, by simp⟩) (hbefore' batch)
  · rintro before call failure after rfl
    exact halts_apply s c before call failure after ls r h

/-- A message of the room that has one already. -/
def sampleSent : Change :=
  .messageSent "!r" "$2" "@ann" "make it seven"

/-- The theorem at a message of the reference world: its bulk request is gated. -/
theorem writes_gated_by_fresh_reads_oneMessage :
    let es := (apply .plain sampleSent).run.exchanges World.handler .oneMessage
    ∃ before batch answer, es = before ++ [⟨.engine (.indexDocuments batch), answer⟩] ∧
      Gated .plain sampleSent before batch := by
  intro es
  have hends := Course.ends_exchanges World.handler (apply .plain sampleSent).run .oneMessage
  exact ⟨es.take 4, _, _, rfl, ((writes_gated_by_fresh_reads hends).1 _ _ _ _ rfl).1⟩

end Sync

end ChatIndex
