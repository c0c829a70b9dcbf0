import ChatIndex.Proofs.Backfill
import Mathlib.Data.List.Induction

/-!
# Backfills in batches of any size

A backfill sends its documents in order, in batches that are cut without regard to what the index
holds.  Where nothing is refused but ids that are there, the batches come to the same as one
request: a document is written unless its id is there before it, be it from the start, from an
earlier batch or from the same one, and those that are not written are reported in order.

* `writeAll_creates`     what creating documents one after the other leaves and rejects
* `calls_backfill`       each batch is sent, whatever was rejected before
* `backfilled_any_size`  what a backfill sends, leaves and answers, with batches of any size
-/

namespace ChatIndex

/-! ## Ids that are taken -/

/-- Whether an id is in an index or belongs to one of some documents. -/
def Index.taken (ds : Index) (documents : List BulkDocument) (id : String) : Bool :=
  ds.contains id || documents.any (·.id = id)

/-- The documents of a list whose ids are taken before it is their turn: by the index, or by a
document in front of them. -/
def Index.rejected (ds : Index) (documents : List BulkDocument) : List BulkDocument :=
  (documents.zipIdx.filter fun (d, k) => ds.taken (documents.take k) d.id).map (·.1)

/-- How a document is reported whose id is taken. -/
def BulkDocument.conflict (index : String) (d : BulkDocument) : Rejection :=
  ⟨index, d.id, 409, "version_conflict_engine_exception"⟩

/-- One more document is rejected just if its id is taken by then, and none of those before it is
judged anew. -/
theorem Index.rejected_concat (ds : Index) (documents : List BulkDocument) (d : BulkDocument) :
    ds.rejected (documents ++ [d]) =
      ds.rejected documents ++ if ds.taken documents d.id then [d] else [] := by
  -- What stands in front of an earlier document is the same in both lists.
  have hfront : (documents.zipIdx.filter fun (e, k) => ds.taken ((documents ++ [d]).take k) e.id) =
      documents.zipIdx.filter fun (e, k) => ds.taken (documents.take k) e.id := by
    refine List.filter_congr fun ⟨e, k⟩ hmem => ?_
    have hk : k ≤ documents.length := Nat.le_of_lt (List.snd_lt_of_mem_zipIdx hmem)
    simp only [List.take_append_of_le_length hk]
  rw [rejected, List.zipIdx_append, List.filter_append, hfront, List.map_append]
  congr 1
  cases htaken : ds.taken documents d.id <;> simp [htaken]

namespace Memory

variable {i : String} {ds : Index} {documents : List BulkDocument}

/-- An engine that refuses no id creates a document unless its id is there. -/
theorem writeOne_creates {d : BulkDocument} (hcreate : d.action = .create) :
    writeOne [] i ds d =
      if ds.contains d.id then (ds, [d.conflict i]) else (ds.insert d.id d.fields, []) := by
  simp [writeOne, hcreate, BulkDocument.conflict]

/-- A document that is created is there then, and whatever was there stays. -/
theorem get?_writeOne_creates {d : BulkDocument} (hcreate : d.action = .create) (id : String) :
    (writeOne [] i ds d).1.get? id =
      (ds.get? id).or (if d.id = id then some d.fields else none) := by
  rw [writeOne_creates hcreate]
  by_cases hid : d.id = id
  · rw [if_pos hid, KeyMap.contains, hid]
    cases hstored : ds.get? id with
    | none => simp [KeyMap.get?_insert]
    | some stored => simp [hstored]
  · rw [if_neg hid, Option.or_none]
    split
    · rfl
    · rw [KeyMap.get?_insert, if_neg (Ne.symm hid)]

/-- Creating documents one after the other gives each new id the fields of the first document
that has it, keeps what is there, and rejects the documents whose ids are taken. -/
theorem writeAll_creates (i : String) (ds : Index)
    (hcreate : ∀ d ∈ documents, d.action = .create) :
    (∀ id, (writeAll [] i ds documents).1.get? id =
      (ds.get? id).or ((documents.find? (·.id = id)).map (·.fields))) ∧
    (writeAll [] i ds documents).2 = (ds.rejected documents).map (·.conflict i) := by
  -- The last document is judged when those in front of it are written.
  induction documents using List.reverseRecOn with
  | nil => exact ⟨fun id => by simp [writeAll], rfl⟩
  | append_singleton documents d ih =>
    obtain ⟨hstored, hrejected⟩ := ih fun e he => hcreate e (List.mem_append_left _ he)
    have hd : d.action = .create := hcreate d (List.mem_append_right _ List.mem_cons_self)
    rw [writeAll_append]
    constructor
    · intro id
      have hlast : ([d].find? (·.id = id)).map (·.fields) =
          if d.id = id then some d.fields else none := by
        by_cases hid : d.id = id <;> simp [hid]
      -- The index comes first, then the documents in front, then the last one.
      simp only [writeAll]
      rw [get?_writeOne_creates hd, hstored, Option.or_assoc, List.find?_append, Option.map_or,
        hlast]
    · -- An id is there by now just if it was there, or some document in front has it.
      have htaken : (writeAll [] i ds documents).1.contains d.id = ds.taken documents d.id := by
        rw [KeyMap.contains, hstored, Option.isSome_or, Option.isSome_map, List.isSome_find?]
        rfl
      simp only [writeAll, writeOne_creates hd, htaken, hrejected, List.append_nil]
      rw [Index.rejected_concat, List.map_append]
      cases ds.taken documents d.id <;> rfl

end Memory

namespace Bootstrap

open Attempt

variable {reads : Answers}

/-! ## What is sent -/

/-- No piece of a list is empty or longer than the size it is cut to. -/
theorem length_of_mem_chunks {α : Type} {size : Nat} {xs piece : List α} (hsize : 0 < size)
    (h : piece ∈ chunks size xs) : piece ≠ [] ∧ piece.length ≤ size := by
  induction xs using chunks.induct size with
  | case1 =>
    rw [chunks] at h
    exact absurd h List.not_mem_nil
  | case2 x rest ih =>
    rw [chunks] at h
    obtain rfl | h := List.mem_cons.1 h
    · refine ⟨List.cons_ne_nil _ _, ?_⟩
      rw [List.length_cons, List.length_take]
      omega
    · exact ih h

/-- There is a piece just if there is something to cut. -/
theorem chunks_eq_nil_iff {α : Type} {size : Nat} {xs : List α} :
    chunks size xs = [] ↔ xs = [] := by
  cases xs with
  | nil => simp [chunks]
  | cons x rest => simp [chunks]

/-- Batches of which none breaks off the sending are all sent. -/
theorem Sending.requests {index : String} {batches : List (List BulkDocument)}
    {es : List Exchange} {r : Except CallError (List Rejection)} (h : Sending index batches es r)
    (hr : ∃ rejections, r = .ok rejections) :
    es.map (·.1) = batches.map fun batch => .engine (batchCall index batch) := by
  induction h with
  | done => rfl
  | accepted batch rest ih => exact congrArg (_ :: ·) (ih hr)
  -- A batch with rejections is a batch that was sent, and so are those behind it.
  | @rejected batch rejections batches es r rest ih =>
    cases r with
    | ok more => exact congrArg (_ :: ·) (ih ⟨more, rfl⟩)
    | error e =>
      obtain ⟨_, h⟩ := hr
      cases h
  -- Breaking off gives an error, and there was none.
  | broken batch batches e he =>
    obtain ⟨_, h⟩ := hr
    cases h

section Backfill

variable (batchSize : Nat) (index : String) (documents : List BulkDocument) (m : Memory)

/-- Every batch of a backfill is sent, for the engine answers none with a failure that ends the
sending. -/
theorem calls_backfill :
    ((backfill batchSize index documents).run.run (Memory.handler reads) m).calls =
      (chunks (max batchSize 1) documents).map fun batch => .engine (batchCall index batch) := by
  let sending := (sendAll index (chunks (max batchSize 1) documents)).run
  -- In this engine the sending always comes to an end.
  obtain ⟨rejections, hvalue⟩ :
      ∃ rejections, (sending.run (Memory.handler reads) m).value = .ok rejections :=
    ⟨_, congrArg Prod.fst (against_sendAll_eq index (chunks (max batchSize 1) documents) m)⟩
  have hcalls : (sending.run (Memory.handler reads) m).calls =
      (chunks (max batchSize 1) documents).map fun batch => .engine (batchCall index batch) := by
    rw [Course.calls_run]
    have hends := Course.ends_exchanges (Memory.handler reads) sending m
    exact (sending_of_ends hends).requests ⟨_, hvalue⟩
  rw [backfill, ExceptT.run_bind, Course.run_bind]
  dsimp only
  -- Nothing is asked for once the batches are sent.
  rw [hvalue, hcalls]
  refine (congrArg (_ ++ ·) ?_).trans (List.append_nil _)
  cases rejections <;> rfl

/-- A backfill comes to what one request with all the documents would, whatever its batches. -/
theorem against_backfill :
    against reads (backfill batchSize index documents) m =
      (if (Memory.writeAll m.refused index (m.documents index) documents).2 = []
        then .ok documents.length
        else .error (.engine (.bulkFailure
          (Memory.writeAll m.refused index (m.documents index) documents).2)),
       if documents = [] then m
        else m.setDocuments index
          (Memory.writeAll m.refused index (m.documents index) documents).1) := by
  rw [backfill, against_bind, against_sendAll_eq, flatten_chunks]
  simp only [chunks_eq_nil_iff]
  cases (Memory.writeAll m.refused index (m.documents index) documents).2 with
  | nil => rfl
  | cons rejection rejections => rfl

end Backfill

/-! ## Any size of batches -/

/-- What a backfill does: it sends all the documents in order, in batches that are not empty and
not longer than the batch size, where a size of zero counts as one.  What was stored stays, each
new id gets the fields of its first document, and the documents whose ids were taken are
reported. -/
structure Backfilled (batchSize : Nat) (index : String) (documents : List BulkDocument)
    (m : Memory) (run : Run Call Memory (Except CallError Nat)) : Prop where
  sent : ∃ batches : List (List BulkDocument), batches.flatten = documents ∧
    (∀ batch ∈ batches, batch ≠ [] ∧ batch.length ≤ max batchSize 1) ∧
    run.calls = batches.map fun batch => .engine (batchCall index batch)
  stored : ∀ id, run.state.document? index id =
    (m.document? index id).or ((documents.find? (·.id = id)).map (·.fields))
  others : ∀ i, i ≠ index → run.state.indices.get? i = m.indices.get? i
  answered : run.value =
    if (m.documents index).rejected documents = [] then .ok documents.length
    else .error (.engine (.bulkFailure
      (((m.documents index).rejected documents).map (·.conflict index))))

/-- An engine that refuses no id but those that are there is filled in the same way, and with the
same outcome, whatever the size of the batches. -/
theorem backfilled_any_size {index : String} {documents : List BulkDocument} {m : Memory}
    (hcreate : ∀ d ∈ documents, d.action = .create) (hrefused : m.refused = []) :
    (∀ batchSize, Backfilled batchSize index documents m
      ((backfill batchSize index documents).run.run (Memory.handler reads) m)) ∧
    ∀ size₁ size₂, against reads (backfill size₁ index documents) m =
      against reads (backfill size₂ index documents) m := by
  obtain ⟨hstored, hrejected⟩ := Memory.writeAll_creates index (m.documents index) hcreate
  constructor
  · intro batchSize
    have hrun : against reads (backfill batchSize index documents) m = _ :=
      against_backfill batchSize index documents m
    rw [hrefused, hrejected] at hrun
    obtain ⟨hvalue, hstate⟩ := Prod.mk.inj hrun
    refine ⟨?_, fun id => ?_, fun i hi => ?_, ?_⟩
    · -- What is sent are the pieces of the list, cut to the size.
      have hsize : 0 < max batchSize 1 := by omega
      exact ⟨_, flatten_chunks (max batchSize 1) documents,
        fun batch hbatch => length_of_mem_chunks hsize hbatch, calls_backfill ..⟩
    · rw [hstate]
      split
      · next hempty =>
        rw [hempty]
        exact (Option.or_none ..).symm
      · rw [Memory.document?_setDocuments, if_pos rfl]
        exact hstored id
    · rw [hstate]
      split
      · rfl
      · exact (KeyMap.get?_insert ..).trans (if_neg hi)
    · -- The answer counts the documents, or reports the rejected ones.
      rw [hvalue]
      simp only [List.map_eq_nil_iff]
  · -- Neither side of this mentions the size any more.
    intro size₁ size₂
    rw [against_backfill, against_backfill]

/-- Four documents, of which the third has the id of the first. -/
def repeatedIds : List BulkDocument :=
  [⟨"$a", .create, .ofList [("content", .string "first")]⟩,
   ⟨"$b", .create, .ofList [("content", .string "second")]⟩,
   ⟨"$a", .create, .ofList [("content", .string "third")]⟩,
   ⟨"$c", .create, .ofList [("content", .string "fourth")]⟩]

/-- An engine with one of their ids. -/
def oneIdTaken : Memory :=
  Memory.empty.setDocuments "messages" (.ofList [("$b", .ofList [("content", .string "old")])])

/-- The theorem at documents of which two are rejected: the second finds its id in the index, the
third finds it in the first batch. -/
theorem backfilled_any_size_repeatedIds :
    (∀ d ∈ repeatedIds, d.action = .create) ∧ oneIdTaken.refused = [] ∧
      Backfilled 2 "messages" repeatedIds oneIdTaken
        ((backfill 2 "messages" repeatedIds).run.run (Memory.handler Tables.empty.answer)
          oneIdTaken) ∧
      against Tables.empty.answer (backfill 2 "messages" repeatedIds) oneIdTaken =
        against Tables.empty.answer (backfill 3 "messages" repeatedIds) oneIdTaken ∧
      (oneIdTaken.documents "messages").rejected repeatedIds =
        [repeatedIds[1], repeatedIds[2]] := by
  have hcreate : ∀ d ∈ repeatedIds, d.action = .create := by decide
  have hrefused : oneIdTaken.refused = [] := rfl
  have hrejected : (oneIdTaken.documents "messages").rejected repeatedIds =
      [repeatedIds[1], repeatedIds[2]] := by decide +kernel
  exact ⟨hcreate, hrefused, (backfilled_any_size hcreate hrefused).1 2,
    (backfilled_any_size hcreate hrefused).2 2 3, hrejected⟩

end Bootstrap

end ChatIndex
