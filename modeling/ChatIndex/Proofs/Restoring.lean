import ChatIndex.Bootstrap
import ChatIndex.Proofs.Exchange

/-!
# What happens while the indices are created and filled

Every course that creating and filling an index can take, whatever the two sides answer.  The two
indices are filled in the same way, each from a snapshot of its own.

* `sending_of_ends`    batches are sent in order, past rejections, up to the first other failure
* `restoring_of_ends`  the rooms index comes first and the messages index second
-/

namespace ChatIndex.Bootstrap

open Attempt

variable {es : List Exchange} {ls : List LogRecord}

/-- The request that writes a batch. -/
def batchCall (index : String) (batch : List BulkDocument) : EngineCall :=
  .indexDocuments (KeyMap.empty.insert index batch)

/-- The pieces of a list, put together, are the list. -/
theorem flatten_chunks {α : Type} (size : Nat) (xs : List α) : (chunks size xs).flatten = xs := by
  induction xs using chunks.induct size with
  | case1 => rw [chunks, List.flatten_nil]
  | case2 x rest ih =>
    rw [chunks, List.flatten_cons, ih, List.cons_append, List.take_append_drop]

/-- The pieces of a list hold nothing but what the list holds. -/
theorem mem_of_mem_chunks {α : Type} {size : Nat} {xs piece : List α} {x : α}
    (hpiece : piece ∈ chunks size xs) (hx : x ∈ piece) : x ∈ xs := by
  rw [← flatten_chunks size xs]
  exact List.mem_flatten.2 ⟨piece, hpiece, hx⟩

/-- The exchanges in which batches are sent, and what was rejected. -/
inductive Sending (index : String) :
    List (List BulkDocument) → List Exchange → Except CallError (List Rejection) → Prop
  | done : Sending index [] [] (.ok [])
  | accepted (batch : List BulkDocument) {batches es r} (rest : Sending index batches es r) :
      Sending index (batch :: batches) (⟨.engine (batchCall index batch), .ok ()⟩ :: es) r
  | rejected (batch : List BulkDocument) (rejections : List Rejection) {batches es r}
      (rest : Sending index batches es r) :
      Sending index (batch :: batches)
        (⟨.engine (batchCall index batch), .error (.bulkFailure rejections)⟩ :: es)
        (r.map (rejections ++ ·))
  | broken (batch : List BulkDocument) (batches) (e : EngineError)
      (he : ∀ rejections, e ≠ .bulkFailure rejections) :
      Sending index (batch :: batches) [⟨.engine (batchCall index batch), .error e⟩]
        (.error (.engine e))

/-- What becomes of a backfill of `written` documents whose batches ended so. -/
def backfillResult (written : Nat) : Except CallError (List Rejection) → Except CallError Nat
  | .ok [] => .ok written
  | .ok rejections => .error (.engine (.bulkFailure rejections))
  | .error e => .error e

/-- The exchanges in which one index is created and filled, and how many documents were written
to it, if it was created. -/
inductive Filling (batchSize : Nat) (index : String) (mapping : Json) (snapshot : ReadCall)
    (entries : snapshot.Value → List BulkDocument) :
    List Exchange → Except CallError (Option Nat) → Prop
  | unknown (e) :
      Filling batchSize index mapping snapshot entries [⟨.engine (.indexExists index), .error e⟩]
        (.error (.engine e))
  | present :
      Filling batchSize index mapping snapshot entries
        [⟨.engine (.indexExists index), .ok true⟩] (.ok none)
  | notCreated (e) :
      Filling batchSize index mapping snapshot entries
        [⟨.engine (.indexExists index), .ok false⟩,
         ⟨.engine (.createIndex index mapping), .error e⟩] (.error (.engine e))
  | unread (e) :
      Filling batchSize index mapping snapshot entries
        [⟨.engine (.indexExists index), .ok false⟩,
         ⟨.engine (.createIndex index mapping), .ok ()⟩, ⟨.read snapshot, .error e⟩]
        (.error (.store e))
  | filled (rows : snapshot.Value) {es r}
      (sending : Sending index (chunks (max batchSize 1) (entries rows)) es r) :
      Filling batchSize index mapping snapshot entries
        (⟨.engine (.indexExists index), .ok false⟩ ::
         ⟨.engine (.createIndex index mapping), .ok ()⟩ :: ⟨.read snapshot, .ok rows⟩ :: es)
        ((backfillResult (entries rows).length r).map some)

/-- The exchanges in which the rooms index is created and filled. -/
abbrev FillingRooms (batchSize : Nat) (names : IndexNames) :
    List Exchange → Except CallError (Option Nat) → Prop :=
  Filling batchSize names.rooms roomsMapping .clearRoomNames fun rooms => rooms.map roomEntry

/-- The exchanges in which the messages index is created and filled. -/
abbrev FillingMessages (batchSize : Nat) (names : IndexNames) :
    List Exchange → Except CallError (Option Nat) → Prop :=
  Filling batchSize names.messages messagesMapping .clearRoomMessages
    fun messages => messages.map messageEntry

/-- The exchanges of a whole run, and its report. -/
inductive Restoring (batchSize : Nat) (names : IndexNames) :
    List Exchange → Except CallError BootstrapReport → Prop
  | roomsFailed {es e} (rooms : FillingRooms batchSize names es (.error e)) :
      Restoring batchSize names es (.error e)
  | messagesFailed {es₁ es₂ n e} (rooms : FillingRooms batchSize names es₁ (.ok n))
      (messages : FillingMessages batchSize names es₂ (.error e)) :
      Restoring batchSize names (es₁ ++ es₂) (.error e)
  | finished {es₁ es₂ n k} (rooms : FillingRooms batchSize names es₁ (.ok n))
      (messages : FillingMessages batchSize names es₂ (.ok k)) :
      Restoring batchSize names (es₁ ++ es₂) (.ok (report names n k))

/-! ## One lemma per function -/

/-- Batches are sent in one of these ways. -/
theorem sending_of_ends {index : String} {batches : List (List BulkDocument)}
    {r : Except CallError (List Rejection)} (h : (sendAll index batches).run.Ends es ls r) :
    Sending index batches es r := by
  induction batches generalizing es ls r with
  | nil =>
    obtain ⟨rfl, -, rfl⟩ := ends_pure.1 h
    exact .done
  | cons batch batches ih =>
    rw [sendAll, ends_tryEngine_bind] at h
    obtain ⟨answer, es', rfl, h⟩ := h
    split at h
    · exact .accepted batch (ih h)
    · next rejections =>
      -- The rejections are kept for the end, and lost if a later batch breaks off.
      rw [ends_record_bind] at h
      obtain ⟨ls', rfl, h⟩ := h
      rw [ends_bind] at h
      obtain ⟨e, h, rfl⟩ | ⟨more, es₁, es₂, ls₁, ls₂, h, hlast, rfl, rfl⟩ := h
      · exact .rejected batch rejections (ih h)
      · obtain ⟨rfl, -, rfl⟩ := ends_pure.1 hlast
        rw [List.append_nil]
        exact .rejected batch rejections (ih h)
    · next e hne =>
      obtain ⟨rfl, -, rfl⟩ := ends_throw.1 h
      exact .broken batch batches e hne

/-- A backfill sends its documents in batches, and what was rejected decides how it ends. -/
private theorem sending_of_ends_backfill {batchSize : Nat} {index : String}
    {documents : List BulkDocument} {r : Except CallError Nat}
    (h : (backfill batchSize index documents).run.Ends es ls r) :
    ∃ sent, Sending index (chunks (max batchSize 1) documents) es sent ∧
      r = backfillResult documents.length sent := by
  rw [backfill, ends_bind] at h
  obtain ⟨e, h, rfl⟩ | ⟨rejections, es₁, es₂, ls₁, ls₂, h, hlast, rfl, rfl⟩ := h
  · exact ⟨_, sending_of_ends h, rfl⟩
  · cases rejections with
    -- Nothing was rejected, so the backfill ends with what it has written.
    | nil =>
      rw [if_neg (by simp), ends_record_bind] at hlast
      obtain ⟨_, -, hlast⟩ := hlast
      obtain ⟨rfl, -, rfl⟩ := ends_pure.1 hlast
      rw [List.append_nil]
      exact ⟨_, sending_of_ends h, rfl⟩
    -- All that was rejected on the way is the one failure.
    | cons rejection rejections =>
      rw [if_pos (by simp)] at hlast
      obtain ⟨rfl, -, rfl⟩ := ends_throw.1 hlast
      rw [List.append_nil]
      exact ⟨_, sending_of_ends h, rfl⟩

/-- The ways to make sure that an index is there. -/
private theorem cases_of_ends_ensureIndex {index : String} {mapping : Json}
    {r : Except CallError Bool} (h : (ensureIndex index mapping).run.Ends es ls r) :
    (∃ e, es = [⟨.engine (.indexExists index), .error e⟩] ∧ r = .error (.engine e)) ∨
    (es = [⟨.engine (.indexExists index), .ok true⟩] ∧ r = .ok false) ∨
    (∃ e, es = [⟨.engine (.indexExists index), .ok false⟩,
      ⟨.engine (.createIndex index mapping), .error e⟩] ∧ r = .error (.engine e)) ∨
    (es = [⟨.engine (.indexExists index), .ok false⟩,
      ⟨.engine (.createIndex index mapping), .ok ()⟩] ∧ r = .ok true) := by
  rw [ensureIndex, ends_engine_bind] at h
  obtain ⟨e, rfl, -, rfl⟩ | ⟨present, es', rfl, h⟩ := h
  · exact .inl ⟨e, rfl, rfl⟩
  -- An index that is there is left alone, and one that is missing is created.
  cases hpresent : (present : Bool) with
  | true =>
    rw [if_pos hpresent, ends_record_bind] at h
    obtain ⟨_, -, h⟩ := h
    obtain ⟨rfl, -, rfl⟩ := ends_pure.1 h
    exact .inr (.inl ⟨rfl, rfl⟩)
  | false =>
    rw [if_neg (by rw [hpresent]; decide), ends_engine_bind] at h
    obtain ⟨e, rfl, -, rfl⟩ | ⟨_, es', rfl, h⟩ := h
    · exact .inr (.inr (.inl ⟨e, rfl, rfl⟩))
    · rw [ends_record_bind] at h
      obtain ⟨_, -, h⟩ := h
      obtain ⟨rfl, -, rfl⟩ := ends_pure.1 h
      exact .inr (.inr (.inr ⟨rfl, rfl⟩))

/-- The step of a run that makes sure of one index and fills it if it was created. -/
def ensureFilled (batchSize : Nat) (index : String) (mapping : Json) (snapshot : ReadCall)
    (entries : snapshot.Value → List BulkDocument) : Attempt CallError (Option Nat) :=
  ensureIndex index mapping >>= fun created =>
    if created = true then
      read snapshot >>= fun rows => backfill batchSize index (entries rows) >>= fun written =>
        pure (some written)
    else pure none

/-- The rooms index is made sure of and filled from the names of the clear rooms. -/
theorem ensureRooms_eq (batchSize : Nat) (names : IndexNames) :
    ensureRooms batchSize names =
      ensureFilled batchSize names.rooms roomsMapping .clearRoomNames
        fun rooms => rooms.map roomEntry := rfl

theorem ensureMessages_eq (batchSize : Nat) (names : IndexNames) :
    ensureMessages batchSize names =
      ensureFilled batchSize names.messages messagesMapping .clearRoomMessages
        fun messages => messages.map messageEntry := rfl

/-- Making sure of an index, and filling it from a snapshot if it was created. -/
theorem filling_of_ends {batchSize : Nat} {index : String} {mapping : Json}
    {snapshot : ReadCall} {entries : snapshot.Value → List BulkDocument}
    {r : Except CallError (Option Nat)}
    (h : (ensureFilled batchSize index mapping snapshot entries).run.Ends es ls r) :
    Filling batchSize index mapping snapshot entries es r := by
  unfold ensureFilled at h
  rw [ends_bind] at h
  obtain ⟨e, h, rfl⟩ | ⟨created, es₁, es₂, ls₁, ls₂, h, hlast, rfl, rfl⟩ := h
  · -- Making sure of the index failed.
    obtain ⟨e', rfl, he⟩ | ⟨-, he⟩ | ⟨e', rfl, he⟩ | ⟨-, he⟩ := cases_of_ends_ensureIndex h
    · cases he
      exact .unknown e'
    · exact nomatch he
    · cases he
      exact .notCreated e'
    · exact nomatch he
  · -- The index is there, and it is filled only if it was created.
    obtain ⟨e', -, he⟩ | ⟨rfl, he⟩ | ⟨e', -, he⟩ | ⟨rfl, he⟩ := cases_of_ends_ensureIndex h
    · exact nomatch he
    · cases he
      obtain ⟨rfl, -, rfl⟩ := ends_pure.1 hlast
      exact .present
    · exact nomatch he
    · cases he
      rw [if_pos rfl, ends_read_bind] at hlast
      obtain ⟨e, rfl, -, rfl⟩ | ⟨rows, es', rfl, hlast⟩ := hlast
      · exact .unread e
      · rw [ends_bind] at hlast
        obtain ⟨e, h, rfl⟩ | ⟨n, es₁, es₂, ls₁, ls₂, h, hlast, rfl, rfl⟩ := hlast
        · obtain ⟨sent, hsending, hresult⟩ := sending_of_ends_backfill h
          have hfilling : Filling batchSize index mapping snapshot entries _ _ :=
            .filled rows hsending
          rwa [← hresult] at hfilling
        · -- The backfill has ended well, and nothing is done after it.
          obtain ⟨sent, hsending, hresult⟩ := sending_of_ends_backfill h
          obtain ⟨rfl, -, rfl⟩ := ends_pure.1 hlast
          have hfilling : Filling batchSize index mapping snapshot entries _ _ :=
            .filled rows hsending
          rwa [← hresult, ← List.append_nil es₁] at hfilling

/-- A run takes one of these courses. -/
theorem restoring_of_ends {batchSize : Nat} {names : IndexNames}
    {r : Except CallError BootstrapReport} (h : (run batchSize names).run.Ends es ls r) :
    Restoring batchSize names es r := by
  rw [run, ensureRooms_eq, ends_bind] at h
  obtain ⟨e, h, rfl⟩ | ⟨n, es₁, es₂, ls₁, ls₂, hrooms, h, rfl, rfl⟩ := h
  · exact .roomsFailed (filling_of_ends h)
  · rw [ensureMessages_eq, ends_bind] at h
    obtain ⟨e, h, rfl⟩ | ⟨k, es₁', es₂', ls₁, ls₂, hmessages, h, rfl, rfl⟩ := h
    · exact .messagesFailed (filling_of_ends hrooms) (filling_of_ends h)
    · rw [ends_record_bind] at h
      obtain ⟨_, -, h⟩ := h
      obtain ⟨rfl, -, rfl⟩ := ends_pure.1 h
      rw [List.append_nil]
      exact .finished (filling_of_ends hrooms) (filling_of_ends hmessages)

end ChatIndex.Bootstrap
