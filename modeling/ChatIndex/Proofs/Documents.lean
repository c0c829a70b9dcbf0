import ChatIndex.Engine.Memory
import ChatIndex.Proofs.Exchange
import ChatIndex.World

/-!
# What requests do to the documents

The reference engine seen through its exchanges.  `m.Steps es m'` says that the exchanges `es`
take the engine from `m` to `m'`: a request that fails in the engine's place changes nothing,
any other one is answered by the engine, and what the read model answers does not matter.

A property of all documents is kept by a request whose own writes have it (`EngineCall.Keeps`),
so it is kept by exchanges all of whose requests do.

* `document?_setDocuments`    writing an index changes the documents of that index only
* `documents_indexDocuments`  what a bulk request leaves of one index
* `all_answer`                a request keeps a property of all documents
* `Steps.all`                 and so do exchanges
* `Steps.related`             a relation between states that every request keeps to
* `steps_exchanges`           a run in the reference world is made of such steps
-/

namespace ChatIndex

namespace Memory

variable {m m' : Memory} {P : String → String → Document → Prop}

/-! ## One index -/

/-- Writing an index changes the documents of that index only. -/
theorem documents_setDocuments (m : Memory) (i j : String) (ds : Index) :
    (m.setDocuments i ds).documents j = if j = i then ds else m.documents j := by
  unfold documents setDocuments
  rw [KeyMap.get?_insert]
  split <;> rfl

theorem document?_setDocuments (m : Memory) (i j id : String) (ds : Index) :
    (m.setDocuments i ds).document? j id = if j = i then ds.get? id else m.document? j id := by
  unfold document?
  rw [documents_setDocuments]
  split <;> rfl

@[simp] theorem preseed_setDocuments (m : Memory) (i : String) (ds : Index) :
    (m.setDocuments i ds).preseed = m.preseed := rfl

@[simp] theorem refused_setDocuments (m : Memory) (i : String) (ds : Index) :
    (m.setDocuments i ds).refused = m.refused := rfl

/-- An index that exists has the documents that it holds. -/
theorem documents_of_get?_eq_some {i : String} {ds : Index} (h : m.indices.get? i = some ds) :
    m.documents i = ds := by
  rw [documents, h, Option.getD_some]

/-- An index that is missing has no documents. -/
theorem documents_of_get?_eq_none {i : String} (h : m.indices.get? i = none) :
    m.documents i = .empty := by
  rw [documents, h, Option.getD_none]

/-- Removing one document leaves the others of its index, and all other indices. -/
theorem documents_deleteDocument (m : Memory) (i id j : String) :
    (m.deleteDocument i id).documents j =
      if j = i then (m.documents i).erase id else m.documents j := by
  unfold deleteDocument
  cases h : m.indices.get? i with
  | some ds => rw [documents_setDocuments, documents_of_get?_eq_some h]
  | none =>
    -- Removing from a missing index does nothing, and there is nothing to remove.
    show m.documents j = _
    split
    · next hij =>
      rw [hij, documents_of_get?_eq_none h]
      exact KeyMap.ext_get? fun a => by rw [KeyMap.get?_erase]; simp
    · rfl

/-- After a removal every other document is as it was. -/
theorem document?_deleteDocument (m : Memory) (i id j k : String) :
    (m.deleteDocument i id).document? j k =
      if j = i ∧ k = id then none else m.document? j k := by
  unfold document?
  rw [documents_deleteDocument]
  by_cases hi : j = i
  · -- Three documents: the one that is removed, one beside it, one of another index.
    by_cases hk : k = id <;> simp [hi, hk, KeyMap.get?_erase]
  · simp [hi]

/-- What is left after a removal is another document. -/
theorem ne_of_deleteDocument {m : Memory} {i id j k : String} {d : Document}
    (h : (m.deleteDocument i id).document? j k = some d) : ¬(j = i ∧ k = id) := by
  intro hsame
  rw [document?_deleteDocument, if_pos hsame] at h
  cases h

/-- A removal by query leaves the documents of the index that do not match. -/
theorem documents_deleteDocuments (m : Memory) (i : String) (query : DocumentQuery) (j : String) :
    (m.deleteDocuments i query).2.documents j =
      if j = i then (m.documents i).filter fun _ d => !query.isMatch d else m.documents j := by
  unfold deleteDocuments
  cases h : m.indices.get? i with
  | some ds => rw [documents_setDocuments, documents_of_get?_eq_some h]
  | none =>
    show m.documents j = _
    split
    · next hij =>
      rw [hij, documents_of_get?_eq_none h]
      exact KeyMap.ext_get? fun a => by rw [KeyMap.get?_filter]; simp
    · rfl

/-- The same of one document. -/
theorem document?_deleteDocuments (m : Memory) (i : String) (query : DocumentQuery)
    (j id : String) :
    (m.deleteDocuments i query).2.document? j id =
      if j = i then (m.document? i id).filter fun d => !query.isMatch d else m.document? j id := by
  unfold document?
  rw [documents_deleteDocuments]
  split
  · rw [KeyMap.get?_filter]
  · rfl

/-- What is left after a removal by a field does not have the text in that field. -/
theorem get?_ne_of_deleteDocuments {m : Memory} {i id name value : String} {d : Document}
    (h : (m.deleteDocuments i (.field name value)).2.document? i id = some d) :
    d.get? name ≠ some (.string value) := by
  intro hfield
  rw [document?_deleteDocuments, if_pos rfl, Option.filter_eq_some_iff] at h
  -- A document with the text would match the query, and those that match are gone.
  have hmatch : (DocumentQuery.field name value).isMatch d = true := by
    simp [DocumentQuery.field, DocumentQuery.isMatch, hfield]
  simp [hmatch] at h

/-- An update by query writes one field of the documents that match. -/
theorem documents_updateDocuments (m : Memory) (i field : String) (value : Json)
    (query : DocumentQuery) (j : String) :
    (m.updateDocuments i field value query).2.documents j =
      if j = i then
        (m.documents i).map fun _ d => if query.isMatch d then d.insert field value else d
      else m.documents j := by
  unfold updateDocuments
  cases h : m.indices.get? i with
  | some ds => rw [documents_setDocuments, documents_of_get?_eq_some h]
  | none =>
    -- A missing index stays missing, and has no documents before or after.
    show m.documents j = _
    split
    · next hij =>
      rw [hij, documents_of_get?_eq_none h]
      exact KeyMap.ext_get? fun a => by rw [KeyMap.get?_map]; simp
    · rfl

/-- The same of one document. -/
theorem document?_updateDocuments (m : Memory) (i field : String) (value : Json)
    (query : DocumentQuery) (j id : String) :
    (m.updateDocuments i field value query).2.document? j id =
      if j = i then
        (m.document? i id).map fun d => if query.isMatch d then d.insert field value else d
      else m.document? j id := by
  unfold document?
  rw [documents_updateDocuments]
  split
  · rw [KeyMap.get?_map]
  · rfl

/-- Merging into a document answers and changes according to whether it is there. -/
theorem updateDocument_of_some {i id : String} {d : Document} (fields : Document)
    (h : m.document? i id = some d) :
    m.updateDocument i id fields =
      (.ok (), m.setDocuments i ((m.documents i).insert id (d.merge fields))) := by
  simp only [updateDocument, h]

/-- An update of a document that is not there fails, and changes nothing. -/
theorem updateDocument_of_none {i id : String} (fields : Document)
    (h : m.document? i id = none) :
    m.updateDocument i id fields = (.error (.status 404 "document_missing_exception"), m) := by
  simp only [updateDocument, h]

/-- After an update every other document is as it was, and a missing one is still missing. -/
theorem document?_updateDocument (m : Memory) (i id : String) (fields : Document)
    (j k : String) :
    (m.updateDocument i id fields).2.document? j k =
      if j = i ∧ k = id then (m.document? i id).map (·.merge fields) else m.document? j k := by
  cases h : m.document? i id with
  | none =>
    rw [updateDocument_of_none fields h]
    split
    · next hjk => rw [hjk.1, hjk.2]; exact h
    · rfl
  | some d =>
    rw [updateDocument_of_some fields h]
    dsimp only
    rw [document?_setDocuments, KeyMap.get?_insert]
    -- It is the same document only if both the index and the id are the same.
    by_cases hj : j = i
    · by_cases hk : k = id
      · simp [hj, hk]
      · simp [hj, hk, document?]
    · simp [hj]

/-! ## Properties of all documents -/

/-- Every document of every index has a property of its index, its id and its fields. -/
def All (P : String → String → Document → Prop) (m : Memory) : Prop :=
  ∀ i id d, m.document? i id = some d → P i id d

/-- Writing an index whose documents have the property keeps it. -/
theorem All.setDocuments (h : m.All P) {i : String} {ds : Index}
    (hds : ∀ id d, ds.get? id = some d → P i id d) : (m.setDocuments i ds).All P := by
  intro j id d hd
  rw [document?_setDocuments] at hd
  split at hd
  · next hj => exact hj ▸ hds id d hd
  · exact h j id d hd

/-- One document of a bulk request, written or rejected. -/
private theorem writeOne_keeps {refused : List String} {i : String} {ds : Index} {b : BulkDocument}
    (hds : ∀ id d, ds.get? id = some d → P i id d) (hb : P i b.id b.fields) :
    ∀ id d, (writeOne refused i ds b).1.get? id = some d → P i id d := by
  intro id d hd
  unfold writeOne at hd
  split at hd
  · exact hds id d hd
  · split at hd
    · exact hds id d hd
    · rw [KeyMap.get?_insert] at hd
      split at hd
      · -- The document that was just written.
        next hid =>
        cases hd
        exact hid ▸ hb
      · exact hds id d hd

/-- All documents of a bulk request for one index. -/
private theorem writeAll_keeps {refused : List String} {i : String} {bs : List BulkDocument}
    {ds : Index} (hds : ∀ id d, ds.get? id = some d → P i id d)
    (hbs : ∀ b ∈ bs, P i b.id b.fields) :
    ∀ id d, (writeAll refused i ds bs).1.get? id = some d → P i id d := by
  induction bs generalizing ds with
  | nil => exact hds
  | cons b bs ih =>
    exact ih (writeOne_keeps hds (hbs b List.mem_cons_self))
      fun b' hb' => hbs b' (List.mem_cons_of_mem b hb')

/-- A bulk request changes what is stored and nothing else. -/
theorem writeBatch_fst (m : Memory) (es : List (String × List BulkDocument)) :
    (m.writeBatch es).1 = { m with indices := (m.writeBatch es).1.indices } := by
  induction es generalizing m with
  | nil => rfl
  | cons e es ih => exact ih _

/-- A bulk request for any number of indices. -/
private theorem All.writeBatch {es : List (String × List BulkDocument)} (h : m.All P)
    (hes : ∀ e ∈ es, ∀ b ∈ e.2, P e.1 b.id b.fields) : (m.writeBatch es).1.All P := by
  induction es generalizing m with
  | nil => exact h
  | cons e es ih =>
    refine ih (h.setDocuments (writeAll_keeps (h e.1) (hes e List.mem_cons_self))) ?_
    exact fun e' he' => hes e' (List.mem_cons_of_mem e he')

end Memory

/-- Every document of these indices has a property of its index, its id and its fields. -/
def Indices.All (P : String → String → Document → Prop) (indices : Indices) : Prop :=
  ∀ i ds id d, indices.get? i = some ds → ds.get? id = some d → P i id d

/-- Whether what a request writes has a property of all documents; a new index holds what is in
`seed`. -/
def EngineCall.Keeps (P : String → String → Document → Prop) (seed : Indices) :
    EngineCall → Prop
  | .createIndex i _ => ∀ ds, seed.get? i = some ds → ∀ id d, ds.get? id = some d → P i id d
  | .indexDocuments batch => ∀ e ∈ batch.entries, ∀ b ∈ e.2, P e.1 b.id b.fields
  | .updateDocument i id fields => ∀ d, P i id d → P i id (d.merge fields)
  | .updateDocuments i field value _ => ∀ id d, P i id d → P i id (d.insert field value)
  | _ => True

namespace Memory

variable {m m' : Memory} {P : String → String → Document → Prop}

/-- The state after a bulk request, whether it was rejected in part or not. -/
theorem indexDocuments_snd (m : Memory) (batch : BulkBatch) :
    (m.indexDocuments batch).2 = (m.writeBatch batch.entries).1 := by
  unfold indexDocuments
  split <;> simp_all

/-- A bulk request writes each index as if the others were not there. -/
theorem documents_indexDocuments (m : Memory) (batch : BulkBatch) (i : String) :
    (m.indexDocuments batch).2.documents i =
      (writeAll m.refused i (m.documents i) ((batch.get? i).getD [])).1 := by
  rw [indexDocuments_snd]
  have hwrite : ∀ es : List (String × List BulkDocument), Entries.Sorted es → ∀ m : Memory,
      (m.writeBatch es).1.documents i =
        (writeAll m.refused i (m.documents i) ((Entries.get? es i).getD [])).1 := by
    intro es
    induction es with
    | nil => exact fun _ m => rfl
    | cons e es ih =>
      obtain ⟨j, bs⟩ := e
      intro hsorted m
      obtain ⟨hlt, hsorted⟩ := List.pairwise_cons.1 hsorted
      -- The other indices find the index as the first entry leaves it.
      have hrest := ih hsorted
        (m.setDocuments j (writeAll m.refused j (m.documents j) bs).1)
      have hcons : (m.writeBatch ((j, bs) :: es)).1 =
          ((m.setDocuments j (writeAll m.refused j (m.documents j) bs).1).writeBatch es).1 := rfl
      rw [hcons, hrest, documents_setDocuments, refused_setDocuments]
      by_cases hi : i = j
      · -- The keys of a batch increase, so the rest of it has nothing for this index.
        subst hi
        rw [if_pos rfl, Entries.get?_eq_none_of_lt hlt, Entries.get?, if_pos rfl]
        rfl
      · rw [if_neg hi, Entries.get?, if_neg hi]
  exact hwrite batch.entries batch.sorted m

/-- A request changes what is stored and nothing else. -/
theorem answer_snd (m : Memory) (c : EngineCall) :
    (m.answer c).2 = { m with indices := (m.answer c).2.indices } := by
  cases c with
  | createIndex i mapping =>
    simp only [answer, createIndex]
    split <;> rfl
  | indexDocuments batch =>
    have h := writeBatch_fst m batch.entries
    simp only [answer, indexDocuments_snd]
    exact h
  | updateDocument i id fields =>
    simp only [answer, updateDocument]
    split <;> rfl
  | updateDocuments i field value query =>
    simp only [answer, updateDocuments]
    split <;> rfl
  | deleteDocument i id =>
    simp only [answer, deleteDocument]
    split <;> rfl
  | deleteDocuments i query =>
    simp only [answer, deleteDocuments]
    split <;> rfl
  | _ => rfl

/-- The engine reads no records, so it never fails at one. -/
theorem answer_ne_serialization (m : Memory) (c : EngineCall) (reason : String) :
    (m.answer c).1 ≠ .error (.serialization reason) := by
  cases c with
  | createIndex i mapping =>
    simp only [answer, createIndex]
    split <;> simp
  | indexDocuments batch =>
    simp only [answer, indexDocuments]
    split <;> simp
  | updateDocument i id fields =>
    simp only [answer, updateDocument]
    split <;> simp
  | _ => simp [answer]

/-- A request leaves what new indices start with. -/
theorem preseed_answer (m : Memory) (c : EngineCall) : (m.answer c).2.preseed = m.preseed := by
  rw [answer_snd]

theorem refused_answer (m : Memory) (c : EngineCall) : (m.answer c).2.refused = m.refused := by
  rw [answer_snd]

theorem cannedHits_answer (m : Memory) (c : EngineCall) :
    (m.answer c).2.cannedHits = m.cannedHits := by
  rw [answer_snd]

/-- A request whose own writes have a property keeps it for all documents. -/
theorem all_answer {c : EngineCall} (hkeeps : c.Keeps P m.preseed) (h : m.All P) :
    (m.answer c).2.All P := by
  cases c with
  | createIndex i mapping =>
    simp only [answer, createIndex]
    split
    · exact h
    · cases hseed : m.preseed.get? i with
      -- A new index starts empty, or with what is seeded.
      | none => exact h.setDocuments fun id d hd => by simp at hd
      | some ds => exact h.setDocuments (hkeeps ds hseed)
  | indexDocuments batch =>
    simp only [answer, indexDocuments_snd]
    exact h.writeBatch hkeeps
  | updateDocument i id fields =>
    intro j k d hd
    simp only [answer, document?_updateDocument] at hd
    split at hd
    · next hjk =>
      obtain ⟨d₀, hd₀, rfl⟩ := Option.map_eq_some_iff.1 hd
      rw [hjk.1, hjk.2]
      exact hkeeps d₀ (h i id d₀ hd₀)
    · exact h j k d hd
  | updateDocuments i field value query =>
    intro j id d hd
    simp only [answer, document?_updateDocuments] at hd
    split at hd
    · next hj =>
      obtain ⟨d₀, hd₀, rfl⟩ := Option.map_eq_some_iff.1 hd
      rw [hj]
      split
      · exact hkeeps id d₀ (h i id d₀ hd₀)
      · exact h i id d₀ hd₀
    · exact h j id d hd
  | deleteDocument i id =>
    intro j k d hd
    simp only [answer, document?_deleteDocument] at hd
    split at hd
    · exact nomatch hd
    · exact h j k d hd
  | deleteDocuments i query =>
    intro j id d hd
    simp only [answer, document?_deleteDocuments] at hd
    split at hd
    · next hj => exact hj ▸ h i id d (Option.eq_some_of_filter_eq_some hd)
    · exact h j id d hd
  | _ => exact h

/-! ## Exchanges -/

/-- What an exchange leaves of the engine. -/
inductive Step : Memory → Exchange → Memory → Prop
  /-- A request that fails on the way does nothing. -/
  | failed (m : Memory) (c : EngineCall) (e : EngineError) : Step m ⟨.engine c, .error e⟩ m
  | answered (m : Memory) (c : EngineCall) : Step m ⟨.engine c, (m.answer c).1⟩ (m.answer c).2
  | read (m : Memory) (c : ReadCall) (answer : Except StoreError c.Value) :
      Step m ⟨.read c, answer⟩ m

/-- What exchanges, one after the other, leave of the engine. -/
inductive Steps : Memory → List Exchange → Memory → Prop
  | nil (m : Memory) : Steps m [] m
  | cons {m m₁ m' : Memory} {e : Exchange} {es : List Exchange} (step : Step m e m₁)
      (rest : Steps m₁ es m') : Steps m (e :: es) m'

/-- A request that succeeded was answered by the engine. -/
theorem Step.of_ok {c : EngineCall} {value : c.Value}
    (h : m.Step ⟨.engine c, .ok value⟩ m') : m.answer c = (.ok value, m') := by
  -- The exchange is no variable, and the type of its answer depends on its request.
  generalize he : (⟨.engine c, .ok value⟩ : Exchange) = e at h
  cases h with
  -- A request cannot fail and succeed at once.
  | failed c' err => cases he
  | answered c' =>
    obtain ⟨hc, hvalue⟩ := Sigma.mk.inj he
    cases hc
    exact Prod.ext (eq_of_heq hvalue).symm rfl
  | read c' answer => exact nomatch congrArg Sigma.fst he

/-- A request that failed did nothing, or failed in the engine. -/
theorem Step.of_error {c : EngineCall} {err : EngineError}
    (h : m.Step ⟨.engine c, .error err⟩ m') : m' = m ∨ m.answer c = (.error err, m') := by
  generalize he : (⟨.engine c, .error err⟩ : Exchange) = e at h
  cases h with
  | failed c' err => exact .inl rfl
  | answered c' =>
    obtain ⟨hc, hvalue⟩ := Sigma.mk.inj he
    cases hc
    exact .inr (Prod.ext (eq_of_heq hvalue).symm rfl)
  | read c' answer => exact .inl rfl

/-- A question to the read model does nothing to the engine. -/
theorem Step.of_read {c : ReadCall} {answer : Except StoreError c.Value}
    (h : m.Step ⟨.read c, answer⟩ m') : m' = m := by
  cases h
  rfl

/-- A request does nothing, or what the engine does. -/
theorem Step.eq_or_answer {c : EngineCall} {answer : Except EngineError c.Value}
    (h : m.Step ⟨.engine c, answer⟩ m') : m' = m ∨ m' = (m.answer c).2 := by
  cases answer with
  | ok value => exact .inr (congrArg Prod.snd h.of_ok).symm
  | error e => exact h.of_error.imp_right fun hanswer => (congrArg Prod.snd hanswer).symm

/-- No exchange takes the engine nowhere. -/
@[simp] theorem steps_nil : m.Steps [] m' ↔ m' = m := by
  constructor
  · intro h
    cases h
    rfl
  · rintro rfl
    exact .nil m'

/-- Exchanges are taken one at a time. -/
@[simp] theorem steps_cons {e : Exchange} {es : List Exchange} :
    m.Steps (e :: es) m' ↔ ∃ m₁, m.Step e m₁ ∧ m₁.Steps es m' := by
  constructor
  · intro h
    cases h with
    | cons step rest => exact ⟨_, step, rest⟩
  · rintro ⟨m₁, step, rest⟩
    exact .cons step rest

/-- Exchanges are taken up to some point, and from there on. -/
theorem steps_append {es₁ es₂ : List Exchange} :
    m.Steps (es₁ ++ es₂) m' ↔ ∃ m₁, m.Steps es₁ m₁ ∧ m₁.Steps es₂ m' := by
  constructor
  · intro h
    induction es₁ generalizing m with
    | nil => exact ⟨m, .nil m, h⟩
    | cons e es₁ ih =>
      cases h with
      | cons step rest =>
        obtain ⟨m₁, h₁, h₂⟩ := ih rest
        exact ⟨m₁, .cons step h₁, h₂⟩
  · rintro ⟨m₁, h₁, h₂⟩
    induction h₁ with
    | nil => exact h₂
    | cons step _ ih => exact .cons step (ih h₂)

/-- An exchange leaves what new indices start with. -/
theorem Step.preseed_eq {e : Exchange} (h : m.Step e m') : m'.preseed = m.preseed := by
  cases h with
  | failed c e => rfl
  | answered c => exact preseed_answer m c
  | read c answer => rfl

theorem Step.refused_eq {e : Exchange} (h : m.Step e m') : m'.refused = m.refused := by
  cases h with
  | failed c e => rfl
  | answered c => exact refused_answer m c
  | read c answer => rfl

theorem Steps.preseed_eq {es : List Exchange} (h : m.Steps es m') : m'.preseed = m.preseed := by
  induction h with
  | nil m => rfl
  | cons step rest ih => rw [ih, step.preseed_eq]

/-- Exchanges keep a property of all documents if what each request writes has it. -/
theorem Steps.all {es : List Exchange} (h : m.Steps es m') (hall : m.All P)
    (hkeeps : ∀ c ∈ engineCalls es, c.Keeps P m.preseed) : m'.All P := by
  -- The induction is on the exchanges, with what is left of them to keep.
  induction h with
  | nil m => exact hall
  | cons step rest ih =>
    rw [step.preseed_eq] at ih
    cases step with
    | failed c err => exact ih hall fun c' hc' => hkeeps c' (List.mem_cons_of_mem c hc')
    | answered c =>
      have hfirst := all_answer (hkeeps c List.mem_cons_self) hall
      -- Only a request that was answered writes anything.
      exact ih hfirst fun c' hc' => hkeeps c' (List.mem_cons_of_mem c hc')
    | read c answer => exact ih hall hkeeps

/-- A relation between an earlier and a later state holds along exchanges if every request keeps
to it. -/
theorem Steps.related {R : Memory → Memory → Prop} (hrefl : ∀ m, R m m)
    (htrans : ∀ m₁ m₂ m₃, R m₁ m₂ → R m₂ m₃ → R m₁ m₃) {es : List Exchange} (h : m.Steps es m')
    (hanswer : ∀ c ∈ engineCalls es, ∀ m, R m (m.answer c).2) : R m m' := by
  induction h with
  | nil m => exact hrefl m
  | cons step rest ih =>
    cases step with
    | failed c err => exact ih fun c' hc' => hanswer c' (List.mem_cons_of_mem c hc')
    | answered c =>
      -- The relation is taken over this request and then over the rest.
      refine htrans _ _ _ (hanswer c List.mem_cons_self _) ?_
      exact ih fun c' hc' => hanswer c' (List.mem_cons_of_mem c hc')
    | read c answer => exact ih hanswer

theorem Steps.cannedHits_eq {es : List Exchange} (h : m.Steps es m') :
    m'.cannedHits = m.cannedHits := by
  let R (m m' : Memory) : Prop := m'.cannedHits = m.cannedHits
  have htrans : ∀ m₁ m₂ m₃, R m₁ m₂ → R m₂ m₃ → R m₁ m₃ := fun _ _ _ h₁ h₂ => h₂.trans h₁
  exact h.related (R := R) (fun _ => rfl) htrans fun c _ m => cannedHits_answer m c

/-! ## Whether an index exists -/

/-- Writing an index creates it. -/
theorem contains_setDocuments (m : Memory) (i j : String) (ds : Index) :
    (m.setDocuments i ds).indices.contains j = (decide (j = i) || m.indices.contains j) := by
  unfold setDocuments KeyMap.contains
  rw [KeyMap.get?_insert]
  by_cases h : j = i <;> simp [h]

/-- A bulk request removes no index. -/
private theorem contains_writeBatch {es : List (String × List BulkDocument)} {i : String}
    (h : m.indices.contains i = true) : (m.writeBatch es).1.indices.contains i = true := by
  induction es generalizing m with
  | nil => exact h
  | cons e es ih =>
    refine ih ?_
    rw [contains_setDocuments, h, Bool.or_true]

/-- No request removes an index. -/
theorem contains_answer {i : String} (h : m.indices.contains i = true) (c : EngineCall) :
    (m.answer c).2.indices.contains i = true := by
  -- Whatever is written, it is written by setting the documents of some index.
  have hset : ∀ j ds, (m.setDocuments j ds).indices.contains i = true := by
    intro j ds
    rw [contains_setDocuments, h, Bool.or_true]
  cases c with
  | createIndex j mapping =>
    simp only [answer, createIndex]
    split
    · exact h
    · exact hset _ _
  | indexDocuments batch =>
    simp only [answer, indexDocuments_snd]
    exact contains_writeBatch h
  | updateDocument j id fields =>
    simp only [answer, updateDocument]
    split
    · exact h
    · exact hset _ _
  | updateDocuments j field value query =>
    simp only [answer, updateDocuments]
    split
    · exact h
    · exact hset _ _
  | deleteDocument j id =>
    simp only [answer, deleteDocument]
    split
    · exact h
    · exact hset _ _
  | deleteDocuments j query =>
    simp only [answer, deleteDocuments]
    split
    · exact h
    · exact hset _ _
  | _ => exact h

/-- An index that exists goes on to exist. -/
theorem Steps.contains {es : List Exchange} {i : String} (h : m.Steps es m')
    (hcontains : m.indices.contains i = true) : m'.indices.contains i = true := by
  let R (m m' : Memory) : Prop := m.indices.contains i = true → m'.indices.contains i = true
  have htrans : ∀ m₁ m₂ m₃, R m₁ m₂ → R m₂ m₃ → R m₁ m₃ := fun _ _ _ h₁ h₂ hm => h₂ (h₁ hm)
  exact h.related (R := R) (fun _ hm => hm) htrans (fun c _ _ hm => contains_answer hm c) hcontains

end Memory

/-! ## The reference world -/

/-- A clear room with one message, and an engine without indices. -/
def World.oneMessage : World :=
  let room : RoomDetail := { (default : RoomDetail) with roomId := "!r", name := some "plans" }
  { World.empty with
    tables := { Tables.empty with
      rooms := [room], messages := [⟨"$1", "!r", "see you at six", "@ann"⟩] } }

/-- No request changes the tables. -/
@[simp] theorem World.tables_handler (w : World) (c : Call) :
    (World.handler c w).2.tables = w.tables := by
  cases c with
  | engine c =>
    simp only [World.handler, World.answerEngine]
    split <;> rfl
  | read c =>
    simp only [World.handler, World.answerRead]
    split <;> rfl

/-- What a question is answered in a run is what the tables say. -/
theorem World.answer_of_mem_exchanges {α : Type} {c : ReadCall} {value : c.Value} (p : Program α)
    (w : World) (h : (⟨.read c, .ok value⟩ : Exchange) ∈ p.exchanges World.handler w) :
    w.tables.answer c = .ok value := by
  induction p generalizing w with
  | done a => exact absurd h List.not_mem_nil
  | call c' next ih =>
    obtain h | h := List.mem_cons.1 h
    · obtain ⟨rfl, hvalue⟩ := Sigma.mk.inj h
      have hvalue : Except.ok value = (World.answerRead c w).1 := eq_of_heq hvalue
      unfold World.answerRead at hvalue
      split at hvalue
      · exact nomatch hvalue
      · exact hvalue.symm
    · -- The tables are the same after the first request.
      rw [← World.tables_handler w c']
      exact ih _ _ h
  | log r next ih => exact ih w h

/-- What the reference world answers is a step of its engine, also where it is told to fail. -/
theorem World.step_handler (w : World) (c : Call) :
    w.memory.Step ⟨c, (World.handler c w).1⟩ (World.handler c w).2.memory := by
  cases c with
  | engine c =>
    simp only [World.handler, World.answerEngine]
    split
    · exact .failed _ c _
    · exact .answered _ c
  | read c =>
    simp only [World.handler, World.answerRead]
    split <;> exact .read _ c _

/-- A run in the reference world takes its engine through the exchanges of the run. -/
theorem World.steps_exchanges {α : Type} (p : Program α) (w : World) :
    w.memory.Steps (p.exchanges World.handler w) (p.run World.handler w).state.memory := by
  induction p generalizing w with
  | done a => exact .nil _
  | call c next ih => exact .cons (World.step_handler w c) (ih _ _)
  | log r next ih => exact ih w

end ChatIndex
