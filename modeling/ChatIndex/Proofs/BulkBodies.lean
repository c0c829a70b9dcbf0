import ChatIndex.Proofs.HitLists

/-!
# The body of a bulk request

The lines of a bulk request stand in pairs, and nothing but its place tells whether a line
announces a document or holds the fields of one.  A reader who takes two lines at a time gets back
every document with its index, its id and its action, whatever the fields look like.  So the body
says all there is to say of a batch, except which of its indices have no documents.

* `lists_flatten`            the documents of a batch in one list, none lost and none moved
* `announces_bulkLines`      two lines for each of them, in order
* `readPairs?_of_announces`  what a reader makes of such lines
* `body_determines_batch`    the body of a batch, and when two batches have the same
-/

namespace ChatIndex

open EngineClient

/-! ## The documents of a batch -/

namespace BulkBatch

/-- The documents of a batch in one list, each with the index that it goes to. -/
def flatten (batch : BulkBatch) : List (String × BulkDocument) :=
  batch.entries.flatMap fun (index, ds) => ds.map (index, ·)

/-- The batch without the indices that have no documents. -/
def withoutEmpty (batch : BulkBatch) : BulkBatch :=
  batch.filter fun _ ds => !ds.isEmpty

/-- Whether a list has the documents of a batch: indices in ascending order, and of each index its
documents in the order that they have in the batch. -/
structure Lists (batch : BulkBatch) (flat : List (String × BulkDocument)) : Prop where
  ascending : (flat.map Prod.fst).Pairwise (· ≤ ·)
  documents : ∀ index, (flat.filter (·.1 = index)).map Prod.snd = (batch.get? index).getD []

section Entries

variable {es : List (String × List BulkDocument)}

/-- A document of the one list comes from an entry for its index. -/
theorem index_of_mem_flatMap {index : String} {d : BulkDocument}
    (h : (index, d) ∈ es.flatMap fun e => e.2.map (e.1, ·)) : ∃ ds, (index, ds) ∈ es := by
  obtain ⟨⟨index', ds⟩, hmem, hd⟩ := List.mem_flatMap.1 h
  obtain ⟨d', -, heq⟩ := List.mem_map.1 hd
  cases heq
  exact ⟨ds, hmem⟩

/-- The list is in the order of the indices, since the entries are. -/
theorem pairwise_flatMap (hs : Entries.Sorted es) :
    ((es.flatMap fun e => e.2.map (e.1, ·)).map Prod.fst).Pairwise (· ≤ ·) := by
  induction es with
  | nil => exact List.Pairwise.nil
  | cons e es ih =>
    obtain ⟨index, ds⟩ := e
    obtain ⟨hfirst, hrest⟩ := List.pairwise_cons.1 hs
    rw [List.flatMap_cons, List.map_append, List.pairwise_append]
    refine ⟨?_, ih hrest, ?_⟩
    · -- The documents of one index all have this index.
      rw [List.map_map, List.pairwise_map]
      exact List.pairwise_of_forall fun _ _ => String.le_refl index
    · -- All later indices are behind it.
      intro a ha b hb
      obtain ⟨⟨a', d⟩, hd, rfl⟩ := List.mem_map.1 ha
      obtain ⟨_, -, heq⟩ := List.mem_map.1 hd
      cases heq
      obtain ⟨⟨b', d⟩, hmem, rfl⟩ := List.mem_map.1 hb
      obtain ⟨ds', hds'⟩ := index_of_mem_flatMap hmem
      -- The entries ascend strictly, so a later index is not smaller.
      exact String.not_lt.1 fun hgt => String.lt_irrefl index (String.lt_trans (hfirst _ hds') hgt)

/-- What the list has of one index is what the batch has of it. -/
theorem filter_flatMap (hs : Entries.Sorted es) (index : String) :
    ((es.flatMap fun e => e.2.map (e.1, ·)).filter (·.1 = index)).map Prod.snd =
      (Entries.get? es index).getD [] := by
  induction es with
  | nil => rfl
  | cons e es ih =>
    obtain ⟨first, ds⟩ := e
    obtain ⟨hfirst, hrest⟩ := List.pairwise_cons.1 hs
    rw [List.flatMap_cons, List.filter_append, List.map_append, ih hrest, Entries.get?]
    by_cases heq : index = first
    · -- The indices are distinct, so the rest has no documents of this one.
      subst heq
      have hnone : Entries.get? es index = none := Entries.get?_eq_none_of_lt hfirst
      simp [hnone, List.filter_map, Function.comp_def]
    · simp [heq, Ne.symm heq, List.filter_map, Function.comp_def]

end Entries

/-- The one list has the documents of the batch. -/
theorem lists_flatten (batch : BulkBatch) : Lists batch batch.flatten :=
  ⟨pairwise_flatMap batch.sorted, filter_flatMap batch.sorted⟩

/-- Batches with the same documents in one list are the same, up to indices without documents. -/
theorem withoutEmpty_eq_of_flatten_eq {batch batch' : BulkBatch}
    (h : batch.flatten = batch'.flatten) : batch.withoutEmpty = batch'.withoutEmpty := by
  -- What is left under an index is told by the documents that it has in the one list.
  have hfilter (b : BulkBatch) (index : String) : b.withoutEmpty.get? index =
      (some ((b.get? index).getD [])).filter fun ds => !ds.isEmpty := by
    rw [withoutEmpty, KeyMap.get?_filter]
    cases b.get? index with
    | none => rfl
    | some ds => rfl
  refine KeyMap.ext_get? fun index => ?_
  rw [hfilter, hfilter, ← (lists_flatten batch).documents, ← (lists_flatten batch').documents, h]

end BulkBatch

/-! ## Lines -/

namespace EngineClient

/-- Two lines for each document, in order: the first announces it, the second is its fields. -/
inductive Announces : List (String × BulkDocument) → List Json → Prop
  | nil : Announces [] []
  | cons {index : String} {d : BulkDocument} {ds lines} (rest : Announces ds lines) :
      Announces ((index, d) :: ds)
        (.object [(d.action.name, .object [("_id", .string d.id), ("_index", .string index)])] ::
          .object d.fields.entries :: lines)

/-- Lines for some documents and lines for others are lines for all of them. -/
theorem Announces.append {ds ds' : List (String × BulkDocument)} {lines lines' : List Json}
    (h : Announces ds lines) (h' : Announces ds' lines') :
    Announces (ds ++ ds') (lines ++ lines') := by
  induction h with
  | nil => exact h'
  | cons _ ih => exact .cons ih

/-- Two lines a document. -/
theorem Announces.length {ds : List (String × BulkDocument)} {lines : List Json}
    (h : Announces ds lines) : lines.length = 2 * ds.length := by
  induction h with
  | nil => rfl
  | cons _ ih => simp only [List.length_cons, ih]; omega

/-- The announcing line as it is printed: the id stands in front of the index, whatever order they
are given in. -/
theorem actionLine_eq (index : String) (d : BulkDocument) :
    actionLine index d =
      .object [(d.action.name, .object [("_id", .string d.id), ("_index", .string index)])] := by
  have hkeys : ["_index", "_id"].Pairwise fun a b => b < a := by decide
  have hmembers : Json.ofMembers [("_index", .string index), ("_id", .string d.id)] =
      .object [("_id", .string d.id), ("_index", .string index)] :=
    ofMembers_of_descending hkeys
  rw [actionLine, hmembers]
  rfl

/-- The lines for the documents of one index. -/
theorem announces_documentLines (index : String) (ds : List BulkDocument) :
    Announces (ds.map (index, ·)) (ds.flatMap (documentLines index)) := by
  induction ds with
  | nil => exact .nil
  | cons d ds ih =>
    rw [List.map_cons, List.flatMap_cons, documentLines, actionLine_eq]
    exact .cons ih

/-- The body has two lines for each document of the batch, in order. -/
theorem announces_bulkLines (batch : BulkBatch) : Announces batch.flatten (bulkLines batch) := by
  rw [BulkBatch.flatten, bulkLines]
  induction batch.entries with
  | nil => exact .nil
  | cons e es ih =>
    rw [List.flatMap_cons, List.flatMap_cons]
    exact (announces_documentLines e.1 e.2).append ih

/-! ## Reading them back -/

/-- The action of a name. -/
def actionOfName? : String → Option BulkAction
  | "create" => some .create
  | "index" => some .index
  | _ => none

/-- The action, the index and the id in a line that announces a document. -/
def readAction? : Json → Option (BulkAction × String × String)
  | .object [(name, .object members)] => do
    let action ← actionOfName? name
    let index ← Json.field? members "_index"
    let id ← Json.field? members "_id"
    pure (action, index, id)
  | _ => none

/-- Reads two lines at a time: one that announces a document, and its fields. -/
def readPairs? : List Json → Option (List (String × BulkDocument))
  | [] => some []
  | [_] => none
  | first :: second :: lines => do
    let (action, index, id) ← readAction? first
    let fields ← second.asObject?
    let ds ← readPairs? lines
    pure ((index, ⟨id, action, fields⟩) :: ds)

/-- Each action is known by its name. -/
theorem actionOfName?_name (action : BulkAction) : actionOfName? action.name = some action := by
  cases action <;> rfl

/-- A document is read back from its entries. -/
theorem asObject?_entries (document : Document) :
    (Json.object document.entries).asObject? = some document := by
  rw [Json.asObject?, KeyMap.ofList_entries]

/-- A reader gets back the documents that the lines announce. -/
theorem readPairs?_of_announces {ds : List (String × BulkDocument)} {lines : List Json}
    (h : Announces ds lines) : readPairs? lines = some ds := by
  induction h with
  | nil => rfl
  | @cons index d ds lines _ ih =>
    have haction : readAction? (.object
        [(d.action.name, .object [("_id", .string d.id), ("_index", .string index)])]) =
          some (d.action, index, d.id) := by
      rw [readAction?, actionOfName?_name]
      rfl
    rw [readPairs?, haction, asObject?_entries, ih]
    rfl

/-! ## The body of a batch -/

/-- An index without documents has no lines. -/
theorem bulkLines_withoutEmpty (batch : BulkBatch) :
    bulkLines batch.withoutEmpty = bulkLines batch := by
  show (batch.entries.filter fun e => !e.2.isEmpty).flatMap _ = batch.entries.flatMap _
  induction batch.entries with
  | nil => rfl
  | cons e es ih =>
    obtain ⟨index, ds⟩ := e
    cases ds with
    | nil => simpa using ih
    | cons d ds => simpa using ih

/-- The body of a batch has two lines for each document, one that announces it and one with its
fields, and whoever takes two lines at a time gets back the documents as they stand in the batch.
Two batches have the same body just if they are the same up to indices without documents. -/
theorem body_determines_batch (batch batch' : BulkBatch) :
    BulkBatch.Lists batch batch.flatten ∧ Announces batch.flatten (bulkLines batch) ∧
      (bulkLines batch).length = 2 * batch.flatten.length ∧
      readPairs? (bulkLines batch) = some batch.flatten ∧
      (bulkLines batch = bulkLines batch' ↔ batch.withoutEmpty = batch'.withoutEmpty) := by
  have hlines := announces_bulkLines batch
  have hread := readPairs?_of_announces hlines
  refine ⟨batch.lists_flatten, hlines, hlines.length, hread, fun hsame => ?_, fun hsame => ?_⟩
  · -- The same body is read back as the same documents.
    have hread' := readPairs?_of_announces (announces_bulkLines batch')
    rw [← hsame, hread] at hread'
    exact BulkBatch.withoutEmpty_eq_of_flatten_eq (Option.some.inj hread')
  · -- Indices without documents add no line to either body.
    rw [← bulkLines_withoutEmpty batch, hsame, bulkLines_withoutEmpty]

end EngineClient

end ChatIndex
