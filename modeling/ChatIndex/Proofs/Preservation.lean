import ChatIndex.Proofs.Requests
import ChatIndex.Proofs.Rerun

/-!
# A restore overwrites nothing

A restore only adds documents.  Whatever fails on the way, a document that was there before stays
as it was, and so does one that came with the creation of its index; nothing is written but to
indices that the run itself has created.  Once a run has ended well both indices are there, and
from then on a restore has nothing to do.

* `extendedBy_answer`       a request that only adds keeps the documents that are there
* `Restoring.fillsCreated`  a run writes to the indices that it created, new documents only
* `Restoring.of_present`    a run that finds both indices asks for them and does nothing more
* `restore_preserves`       all of this for a run with any faults, and for a later one without
-/

namespace ChatIndex

/-! ## What only adds -/

/-- Whether a state holds each document of another one, as it is there. -/
def Memory.ExtendedBy (m m' : Memory) : Prop :=
  ∀ i id d, m.document? i id = some d → m'.document? i id = some d

/-- Whether a request writes nothing over a document that is there. -/
def EngineCall.Adds : EngineCall → Prop
  | .indexDocuments batch => ∀ e ∈ batch.entries, ∀ b ∈ e.2, b.action = .create
  | .updateDocument .. | .updateDocuments .. | .deleteDocument .. | .deleteDocuments .. => False
  | _ => True

namespace Memory

theorem ExtendedBy.refl (m : Memory) : m.ExtendedBy m :=
  fun _ _ _ hd => hd

theorem ExtendedBy.trans {m₁ m₂ m₃ : Memory} (h₁ : m₁.ExtendedBy m₂) (h₂ : m₂.ExtendedBy m₃) :
    m₁.ExtendedBy m₃ :=
  fun i id d hd => h₂ i id d (h₁ i id d hd)

/-- A request that only adds keeps the documents that are there. -/
theorem extendedBy_answer {c : EngineCall} (hc : c.Adds) (m : Memory) :
    m.ExtendedBy (m.answer c).2 := by
  cases c with
  | createIndex index mapping =>
    simp only [answer, createIndex]
    split
    · exact .refl m
    · next hmissing =>
      intro i id d hd
      rw [document?_setDocuments]
      split
      · -- An index that is missing holds no document.
        next hi =>
        have hnone : m.indices.get? index = none := by simpa [KeyMap.contains] using hmissing
        rw [hi, document?, documents_of_get?_eq_none hnone, KeyMap.get?_empty] at hd
        cases hd
      · exact hd
  | indexDocuments batch =>
    intro i id d hd
    have hcreate : ∀ b ∈ (batch.get? i).getD [], b.action = .create := by
      cases hbatch : batch.get? i with
      | none => exact fun b hb => absurd hb List.not_mem_nil
      | some bs => exact hc (i, bs) ((KeyMap.mem_entries_iff batch i bs).2 hbatch)
    -- Of the batch only the part for this index counts, and that only creates.
    rw [answer, document?, documents_indexDocuments]
    exact get?_writeAll_create hcreate hd
  | updateDocument | updateDocuments | deleteDocument | deleteDocuments => exact hc.elim
  | _ => exact .refl m

/-- Exchanges keep the documents that are there if all their requests only add. -/
theorem Steps.extendedBy {m m' : Memory} {es : List Exchange} (h : m.Steps es m')
    (hadds : ∀ c ∈ engineCalls es, c.Adds) : m.ExtendedBy m' :=
  h.related ExtendedBy.refl (fun _ _ _ => ExtendedBy.trans) fun c hc m =>
    extendedBy_answer (hadds c hc) m

end Memory

namespace Bootstrap

open Attempt

variable {batchSize : Nat} {names : IndexNames} {es es₁ es₂ : List Exchange} {m m' : Memory}

/-- A restore makes no request but such as only add. -/
theorem Request.adds {call : EngineCall} (h : Request names es call) : call.Adds := by
  cases h with
  | lookUp | createRooms | createMessages => exact trivial
  | writeRooms hrooms hbatch | writeMessages hmessages hbatch =>
    intro e he b hb
    cases List.mem_singleton.1 he
    obtain ⟨row, -, rfl⟩ := List.mem_map.1 (hbatch b hb)
    rfl

/-- What an index holds from its creation on it still holds after the run. -/
theorem document?_of_creation {index : String} {mapping : Json}
    (hadds : ∀ c ∈ engineCalls es, c.Adds) (hsteps : m.Steps es m')
    (hcreation : creation index mapping ∈ es) {ds : Index}
    (hds : m.preseed.get? index = some ds) {id : String} {d : Document}
    (hd : ds.get? id = some d) : m'.document? index id = some d := by
  -- The index comes into being at one point of the run, and all that follows only adds.
  obtain ⟨es₁, es₂, rfl⟩ := List.append_of_mem hcreation
  obtain ⟨m₁, hsteps₁, hrest⟩ := Memory.steps_append.1 hsteps
  obtain ⟨m₂, hstep, hsteps₂⟩ := Memory.steps_cons.1 hrest
  have hadds₂ : ∀ c ∈ engineCalls es₂, c.Adds := by
    intro c hc
    refine hadds c ?_
    rw [engineCalls_append]
    exact List.mem_append_right _ (List.mem_cons_of_mem _ hc)
  refine hsteps₂.extendedBy hadds₂ index id d ?_
  rw [eq_setDocuments_of_creation hstep, Memory.document?_setDocuments, if_pos rfl,
    hsteps₁.preseed_eq, hds]
  exact hd

/-! ## Which indices are written to -/

/-- Whether every bulk request among exchanges goes to indices that were created before it, in
`earlier` or in the exchanges, and creates all its documents. -/
def FillsCreated (earlier es : List Exchange) : Prop :=
  ∀ before batch answer after,
    es = before ++ (⟨.engine (.indexDocuments batch), answer⟩ : Exchange) :: after →
    ∀ e ∈ batch.entries,
      (∃ mapping, creation e.1 mapping ∈ earlier ++ before) ∧ ∀ b ∈ e.2, b.action = .create

theorem FillsCreated.nil (earlier : List Exchange) : FillsCreated earlier [] := by
  intro before batch answer after heq
  simp at heq

/-- A request that is no bulk request needs no index. -/
theorem FillsCreated.cons {earlier : List Exchange} {e : Exchange}
    (hbulk : ∀ batch, e.1 ≠ .engine (.indexDocuments batch))
    (h : FillsCreated (earlier ++ [e]) es) : FillsCreated earlier (e :: es) := by
  intro before batch answer after heq
  cases before with
  | nil =>
    obtain ⟨rfl, -⟩ := List.cons.inj heq
    exact absurd rfl (hbulk batch)
  | cons first before =>
    obtain ⟨rfl, hrest⟩ := List.cons.inj heq
    rw [List.append_cons]
    exact h before batch answer after hrest

/-- What was created in exchanges may be written to in those that follow. -/
theorem FillsCreated.append {earlier : List Exchange} (h₁ : FillsCreated earlier es₁)
    (h₂ : FillsCreated (earlier ++ es₁) es₂) : FillsCreated earlier (es₁ ++ es₂) := by
  intro before batch answer after heq
  -- The request is one of the second part, or one of the first, or the first of the second part.
  obtain ⟨rest, rfl, hrest⟩ | ⟨rest, rfl, hrest⟩ := List.append_eq_append_iff.1 heq
  · rw [← List.append_assoc]
    exact h₂ rest batch answer after hrest
  · cases rest with
    | nil =>
      simpa using h₂ [] batch answer after hrest.symm
    | cons first rest =>
      obtain ⟨rfl, -⟩ := List.cons.inj hrest
      exact h₁ before batch answer rest rfl

section Filling

variable {index : String} {mapping : Json} {snapshot : ReadCall}
  {entries : snapshot.Value → List BulkDocument}

/-- Batches of new documents may be sent once their index was created. -/
theorem Sending.fillsCreated {batches : List (List BulkDocument)}
    {r : Except CallError (List Rejection)} {earlier : List Exchange}
    (h : Sending index batches es r) (mapping : Json)
    (hcreated : creation index mapping ∈ earlier)
    (hcreate : ∀ batch ∈ batches, ∀ b ∈ batch, b.action = .create) :
    FillsCreated earlier es := by
  rintro before batch answer after rfl e he
  obtain ⟨batch', hbatch', heq⟩ :=
    h.exists_batch (.indexDocuments batch) (mem_engineCalls_iff.2 ⟨answer, by simp⟩)
  cases heq
  cases List.mem_singleton.1 he
  exact ⟨⟨mapping, List.mem_append_left before hcreated⟩, hcreate batch' hbatch'⟩

/-- Filling an index writes to that index only, and only after its creation. -/
theorem Filling.fillsCreated {r : Except CallError (Option Nat)} (earlier : List Exchange)
    (h : Filling batchSize index mapping snapshot entries es r)
    (hcreate : ∀ rows, ∀ b ∈ entries rows, b.action = .create) : FillsCreated earlier es := by
  cases h with
  | unknown e | present => exact .cons (by simp) (.nil _)
  | notCreated e => exact .cons (by simp) (.cons (by simp) (.nil _))
  | unread e => exact .cons (by simp) (.cons (by simp) (.cons (by simp) (.nil _)))
  | filled rows sending =>
    -- The creation is the second exchange, so the batches find it among the earlier ones.
    refine .cons (by simp) (.cons (by simp) (.cons (by simp) (sending.fillsCreated mapping ?_ ?_)))
    · exact List.mem_append_left _ (List.mem_append_right _ List.mem_cons_self)
    · exact fun batch hbatch b hb => hcreate rows b (mem_of_mem_chunks hbatch hb)

/-! ## When both indices are there -/

/-- An index is there once it was made sure of without an error. -/
theorem Filling.contains {n : Option Nat}
    (h : Filling batchSize index mapping snapshot entries es (.ok n)) (hsteps : m.Steps es m') :
    m'.indices.contains index = true := by
  generalize hr : (.ok n : Except CallError (Option Nat)) = r at h
  cases h with
  | unknown e | notCreated e | unread e => cases hr
  | present =>
    obtain ⟨m₁, hstep, hrest⟩ := Memory.steps_cons.1 hsteps
    obtain ⟨hanswer, rfl⟩ := Prod.mk.inj hstep.of_ok
    exact hrest.contains (Except.ok.inj hanswer)
  | filled rows sending =>
    obtain ⟨m₁, -, hrest⟩ := Memory.steps_cons.1 hsteps
    obtain ⟨m₂, hcreate, hrest⟩ := Memory.steps_cons.1 hrest
    -- Whatever the batches come to, the index is there.
    exact hrest.contains (contains_of_creation hcreate)

/-- All that is done about an index that is there is to ask for it. -/
theorem Filling.of_present {n : Option Nat}
    (h : Filling batchSize index mapping snapshot entries es (.ok n)) (hsteps : m.Steps es m')
    (hpresent : m.indices.contains index = true) :
    es = [⟨.engine (.indexExists index), .ok true⟩] ∧ n = none ∧ m' = m := by
  generalize hr : (.ok n : Except CallError (Option Nat)) = r at h
  cases h with
  | unknown e | notCreated e | unread e => cases hr
  | present =>
    cases hr
    obtain ⟨m₁, hstep, hrest⟩ := Memory.steps_cons.1 hsteps
    obtain ⟨-, rfl⟩ := Prod.mk.inj hstep.of_ok
    exact ⟨rfl, rfl, Memory.steps_nil.1 hrest⟩
  | filled rows sending =>
    -- The engine would have had to deny an index that is there.
    obtain ⟨m₁, hstep, -⟩ := Memory.steps_cons.1 hsteps
    have hmissing : m.indices.contains index = false :=
      Except.ok.inj (congrArg Prod.fst hstep.of_ok)
    rw [hpresent] at hmissing
    cases hmissing

end Filling

/-! ## Whole runs -/

/-- A run writes to indices that it created itself, and creates all it writes. -/
theorem Restoring.fillsCreated {r : Except CallError BootstrapReport}
    (h : Restoring batchSize names es r) : FillsCreated [] es := by
  have hrooms : ∀ rows, ∀ b ∈ List.map roomEntry rows, b.action = .create := by simp [roomEntry]
  have hmessages : ∀ rows, ∀ b ∈ List.map messageEntry rows, b.action = .create := by
    simp [messageEntry]
  cases h with
  | roomsFailed rooms => exact Filling.fillsCreated [] rooms hrooms
  | messagesFailed rooms messages | finished rooms messages =>
    -- What was done about the rooms is earlier than all that is done about the messages.
    exact (Filling.fillsCreated [] rooms hrooms).append
      (Filling.fillsCreated _ messages hmessages)

/-- Both indices are there after a run that ended well. -/
theorem Restoring.contains {report : BootstrapReport}
    (h : Restoring batchSize names es (.ok report)) (hsteps : m.Steps es m') :
    m'.indices.contains names.rooms = true ∧ m'.indices.contains names.messages = true := by
  cases h with
  | finished rooms messages =>
    obtain ⟨m₁, hsteps₁, hsteps₂⟩ := Memory.steps_append.1 hsteps
    exact ⟨hsteps₂.contains (Filling.contains rooms hsteps₁), Filling.contains messages hsteps₂⟩

/-- A run that finds both indices and ends well has only asked for them. -/
theorem Restoring.of_present {report : BootstrapReport}
    (h : Restoring batchSize names es (.ok report)) (hsteps : m.Steps es m')
    (hrooms : m.indices.contains names.rooms = true)
    (hmessages : m.indices.contains names.messages = true) :
    es = [⟨.engine (.indexExists names.rooms), .ok true⟩,
        ⟨.engine (.indexExists names.messages), .ok true⟩] ∧
      report = ⟨[], 0, 0⟩ ∧ m' = m := by
  cases h with
  | finished rooms messages =>
    obtain ⟨m₁, hsteps₁, hsteps₂⟩ := Memory.steps_append.1 hsteps
    obtain ⟨rfl, rfl, rfl⟩ := Filling.of_present rooms hsteps₁ hrooms
    obtain ⟨rfl, rfl, rfl⟩ := Filling.of_present messages hsteps₂ hmessages
    exact ⟨rfl, rfl, rfl⟩

/-- Without faults, a run that finds both indices asks for them and does nothing more. -/
theorem run_of_present (batchSize : Nat) (reads : Answers)
    (hrooms : m.indices.contains names.rooms = true)
    (hmessages : m.indices.contains names.messages = true) :
    against reads (run batchSize names) m = (.ok ⟨[], 0, 0⟩, m) ∧
      (run batchSize names).run.exchanges (Memory.handler reads) m =
        [⟨.engine (.indexExists names.rooms), .ok true⟩,
         ⟨.engine (.indexExists names.messages), .ok true⟩] := by
  have hrun : against reads (run batchSize names) m = (.ok ⟨[], 0, 0⟩, m) := by
    rw [run, against_bind, ensureRooms_eq, against_ensureFilled_present hrooms]
    dsimp only
    rw [against_bind, ensureMessages_eq, against_ensureFilled_present hmessages]
    rfl
  -- The report fixes the case of the run, and with it the exchanges.
  have hends := Course.ends_exchanges (Memory.handler reads) (run batchSize names).run m
  have hvalue : ((run batchSize names).run.run (Memory.handler reads) m).value =
      .ok ⟨[], 0, 0⟩ := congrArg Prod.fst hrun
  rw [hvalue] at hends
  have hsteps : m.Steps _ ((run batchSize names).run.run (Memory.handler reads) m).state :=
    Memory.steps_exchanges (run batchSize names).run m
  exact ⟨hrun, ((restoring_of_ends hends).of_present hsteps hrooms hmessages).1⟩

/-- A run, whatever fails on the way, leaves each document as it is that was there before or came
with the creation of its index; it writes to indices that it created itself before, and creates
all it writes.  Once it has ended well and as long as both indices exist, a run without faults
asks for them, and that is all it does, whatever documents and rows there are by then. -/
theorem restore_preserves {ls : List LogRecord} {r : Except CallError BootstrapReport}
    (hends : (run batchSize names).run.Ends es ls r) (hsteps : m.Steps es m') :
    m.ExtendedBy m' ∧
      (∀ index mapping, creation index mapping ∈ es → ∀ ds, m.preseed.get? index = some ds →
        ∀ id d, ds.get? id = some d → m'.document? index id = some d) ∧
      FillsCreated [] es ∧
      ∀ report, r = .ok report → ∀ (batchSize' : Nat) (reads : Answers) (m₂ : Memory),
        (∀ index, m'.indices.contains index = true → m₂.indices.contains index = true) →
        against reads (run batchSize' names) m₂ = (.ok ⟨[], 0, 0⟩, m₂) ∧
          (run batchSize' names).run.exchanges (Memory.handler reads) m₂ =
            [⟨.engine (.indexExists names.rooms), .ok true⟩,
             ⟨.engine (.indexExists names.messages), .ok true⟩] := by
  have hrestoring := restoring_of_ends hends
  have hadds : ∀ c ∈ engineCalls es, c.Adds := fun c hc => (hrestoring.request c hc).adds
  refine ⟨hsteps.extendedBy hadds, ?_, hrestoring.fillsCreated, ?_⟩
  · intro index mapping hcreation ds hds id d hd
    exact document?_of_creation hadds hsteps hcreation hds hd
  · -- The run that ended well leaves both indices there, which is all that the next one looks at.
    rintro report rfl batchSize' reads m₂ hthere
    obtain ⟨hrooms, hmessages⟩ := hrestoring.contains hsteps
    exact run_of_present batchSize' reads (hthere _ hrooms) (hthere _ hmessages)

/-- A world with a rooms index that is behind the read model, and with no messages index; a message
that the read model has lost is there as soon as that index is created. -/
def staleRooms : World :=
  { World.oneMessage with
    memory := { Memory.empty with
      indices := KeyMap.empty.insert "rooms"
        (KeyMap.empty.insert "!r" (RoomDocument.toDocument ⟨"!r", "old plans"⟩))
      preseed := KeyMap.empty.insert "messages"
        (KeyMap.empty.insert "$0" (MessageDocument.toDocument ⟨"$0", "!r", "hi", "@ann", none⟩)) } }

/-- A stale document outlives a restore, and so does one that came with an index; the run after that
changes nothing, even where a document has been removed in between. -/
theorem restore_preserves_staleRooms :
    let names := SyncSettings.plain.indices
    let m' := ((run 10 names).run.run World.handler staleRooms).state.memory
    let drifted := m'.deleteDocument names.rooms "!r"
    m'.document? names.rooms "!r" = some (RoomDocument.toDocument ⟨"!r", "old plans"⟩) ∧
      m'.document? names.messages "$0" =
        some (MessageDocument.toDocument ⟨"$0", "!r", "hi", "@ann", none⟩) ∧
      against staleRooms.tables.answer (run 10 names) drifted = (.ok ⟨[], 0, 0⟩, drifted) := by
  intro names m' drifted
  have hends := Course.ends_exchanges World.handler (run 10 names).run staleRooms
  have hsteps := World.steps_exchanges (run 10 names).run staleRooms
  obtain ⟨hkept, hseeded, -, hagain⟩ := restore_preserves hends hsteps
  have hcreation : creation names.messages messagesMapping ∈
      (run 10 names).run.exchanges World.handler staleRooms :=
    List.mem_iff_getElem?.2 ⟨2, rfl⟩
  have hvalue : ((run 10 names).run.run World.handler staleRooms).value =
      .ok ⟨["messages"], 0, 1⟩ := by
    decide +kernel
  refine ⟨hkept _ _ _ rfl, hseeded _ _ hcreation _ rfl _ _ rfl, ?_⟩
  -- Losing a document does not make an index go missing.
  refine (hagain _ hvalue 10 staleRooms.tables.answer drifted fun index hindex => ?_).1
  exact Memory.contains_answer hindex (.deleteDocument names.rooms "!r")

end Bootstrap

end ChatIndex
