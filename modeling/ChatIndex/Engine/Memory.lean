import ChatIndex.Engine
import ChatIndex.Text.Space

/-! # An engine in memory

The reference engine: each index is a map from ids to documents.  A request either fails and
changes nothing or does what its description says; only a bulk request may do both, for it
rejects single documents and still writes the others.

What an index holds as soon as it is created, which ids every bulk request rejects, which hits a
search answers with, which conflicts a by-query request reports and which case the texts are
brought to that a search compares are parameters of the state.
-/

namespace ChatIndex

/-- An index: documents by id. -/
abbrev Index := KeyMap Document

/-- All indices by name. -/
abbrev Indices := KeyMap Index

/-- The state of the reference engine. -/
structure Memory where
  indices : Indices
  /-- Documents that an index holds when it is created. -/
  preseed : Indices
  /-- Ids that every bulk request rejects. -/
  refused : List String
  /-- Hits that every search answers with, in place of what is stored. -/
  cannedHits : Option (List (List (String × Document)))
  /-- What every by-query request reports besides what it did. -/
  versionConflicts : Nat
  failures : Nat
  /-- A text in the case that a search compares texts in. -/
  lower : String → String
deriving Inhabited

namespace Memory

/-- An engine without indices.  Only the case of ASCII letters does not matter to its searches. -/
def empty : Memory :=
  ⟨.empty, .empty, [], none, 0, 0, Text.asciiLower⟩

/-- The documents of an index; none where there is no such index. -/
def documents (m : Memory) (index : String) : Index :=
  (m.indices.get? index).getD .empty

/-- The document of an id. -/
def document? (m : Memory) (index id : String) : Option Document :=
  (m.documents index).get? id

/-- Replaces the documents of an index. -/
def setDocuments (m : Memory) (index : String) (documents : Index) : Memory :=
  { m with indices := m.indices.insert index documents }

/-! ## Bulk requests -/

/-- Writes one document of a bulk request into an index, unless it is rejected. -/
def writeOne (refused : List String) (index : String) (documents : Index) (d : BulkDocument) :
    Index × List Rejection :=
  if refused.contains d.id then
    (documents, [⟨index, d.id, 400, "mapper_parsing_exception"⟩])
  else if d.action = .create ∧ documents.contains d.id then
    (documents, [⟨index, d.id, 409, "version_conflict_engine_exception"⟩])
  else (documents.insert d.id d.fields, [])

/-- Writes the documents of one index in their order. -/
def writeAll (refused : List String) (index : String) (documents : Index) :
    List BulkDocument → Index × List Rejection
  | [] => (documents, [])
  | d :: ds =>
    -- What this document changes counts for those behind it: a second one of its id is there.
    let (documents, rejected) := writeOne refused index documents d
    let (documents, more) := writeAll refused index documents ds
    (documents, rejected ++ more)

/-- Writes the documents of several indices, one index after the other. -/
def writeBatch (m : Memory) : List (String × List BulkDocument) → Memory × List Rejection
  | [] => (m, [])
  | (index, ds) :: rest =>
    let (documents, rejected) := writeAll m.refused index (m.documents index) ds
    let (m, more) := writeBatch (m.setDocuments index documents) rest
    (m, rejected ++ more)

/-- A bulk request: what is not rejected is written. -/
def indexDocuments (m : Memory) (batch : BulkBatch) : Except EngineError Unit × Memory :=
  match writeBatch m batch.entries with
  | (m, []) => (.ok (), m)
  | (m, rejections) => (.error (.bulkFailure rejections), m)

/-! ## Other requests -/

/-- Creates an index. -/
def createIndex (m : Memory) (name : String) : Except EngineError Unit × Memory :=
  if m.indices.contains name then
    (.error (.status 400 "resource_already_exists_exception"), m)
  else (.ok (), m.setDocuments name ((m.preseed.get? name).getD .empty))

/-- Merges fields into a document. -/
def updateDocument (m : Memory) (index id : String) (fields : Document) :
    Except EngineError Unit × Memory :=
  match m.document? index id with
  | none => (.error (.status 404 "document_missing_exception"), m)
  | some document =>
    (.ok (), m.setDocuments index ((m.documents index).insert id (document.merge fields)))

/-- What a by-query request reports that reached `applied` documents. -/
def report (m : Memory) (applied : Nat) : ByQueryOutcome :=
  ⟨applied + m.versionConflicts, applied, m.versionConflicts, m.failures⟩

/-- Sets a field of every document that fulfils a query. -/
def updateDocuments (m : Memory) (index field : String) (value : Json) (query : DocumentQuery) :
    ByQueryOutcome × Memory :=
  match m.indices.get? index with
  | none => (m.report 0, m)
  | some documents =>
    let hit := documents.filter fun _ d => query.isMatch d
    let changed := documents.map fun _ d => if query.isMatch d then d.insert field value else d
    (m.report hit.size, m.setDocuments index changed)

/-- Removes a document. -/
def deleteDocument (m : Memory) (index id : String) : Memory :=
  match m.indices.get? index with
  | none => m
  | some documents => m.setDocuments index (documents.erase id)

/-- Removes every document that fulfils a query. -/
def deleteDocuments (m : Memory) (index : String) (query : DocumentQuery) :
    ByQueryOutcome × Memory :=
  match m.indices.get? index with
  | none => (m.report 0, m)
  | some documents =>
    let kept := documents.filter fun _ d => !query.isMatch d
    (m.report (documents.size - kept.size), m.setDocuments index kept)

/-! ## Searching -/

/-- The text between the two `.*` of a pattern, its escapes undone; all of a pattern without
both. -/
def literalOf (pattern : String) : List Char :=
  unescape (inner pattern.toList)
where
  /-- Takes off the two ends. -/
  inner (cs : List Char) : List Char :=
    match cs with
    | '.' :: '*' :: rest =>
      match rest.reverse with
      | '*' :: '.' :: mid => mid.reverse
      | _ => cs
    | _ => cs
  /-- Drops each backslash and keeps the character after it. -/
  unescape : List Char → List Char
    | [] => []
    | ['\\'] => []
    | '\\' :: c :: rest => c :: unescape rest
    | c :: rest => c :: unescape rest

mutual
/-- The strings at the end of a path, looking into each item of a list on the way. -/
def stringsAt (path : List String) : Json → List String
  | .array items => stringsInItems path items
  | .string s => if path.isEmpty then [s] else []
  | .object members =>
    match path with
    | [] => []
    | name :: path => stringsInMember name path members
  | _ => []

/-- The strings at the end of a path in any of several items. -/
def stringsInItems (path : List String) : List Json → List String
  | [] => []
  | item :: items => stringsAt path item ++ stringsInItems path items

/-- The strings at the end of a path in the member of a name. -/
def stringsInMember (name : String) (path : List String) : List (String × Json) → List String
  | [] => []
  | (k, value) :: members =>
    if name = k then stringsAt path value else stringsInMember name path members
end

/-- Whether a text occurs in another, as a run of characters. -/
def occursIn (needle : List Char) : List Char → Bool
  | [] => needle.isEmpty
  | c :: rest => needle.isPrefixOf (c :: rest) || occursIn needle rest

/-- Whether a field, given by its dotted path, has a string that contains a text once it is
lowered. -/
def fieldContains (lower : String → String) (needle : String) (document : Document)
    (field : String) : Bool :=
  (stringsAt (field.splitOn ".") (Json.ofDocument document)).any fun s =>
    occursIn needle.toList (lower s).toList

/-- The documents of an index with a field that contains a text, by ascending id. -/
def find (m : Memory) (needle : String) (target : IndexFields) : List SearchHit :=
  let found := (m.documents target.index).filter fun _ d =>
    target.fields.any (fieldContains m.lower needle d)
  found.entries.map fun (id, source) =>
    ⟨target.index, id, some ⟨false, Nat.pow 2 52, -52⟩, source⟩

/-- The hits of a search, one list for each target; all canned lists, however many, where hits
are canned. -/
def search (m : Memory) (pattern : String) (targets : List IndexFields) : List (List SearchHit) :=
  match m.cannedHits with
  | some lists => lists.map fun hits => hits.map fun (id, source) => ⟨"", id, none, source⟩
  | none => targets.map (m.find (m.lower (String.ofList (literalOf pattern))))

/-! ## All requests -/

/-- The answer to a request, and the state after it. -/
def answer (m : Memory) : (c : EngineCall) → Except EngineError c.Value × Memory
  | .createIndex name _ => m.createIndex name
  | .indexExists name => (.ok (m.indices.contains name), m)
  | .indexDocuments batch => m.indexDocuments batch
  | .updateDocument index id fields => m.updateDocument index id fields
  | .updateDocuments index field value query =>
    let (outcome, m) := m.updateDocuments index field value query
    (.ok outcome, m)
  | .documentExists index id => (.ok (m.document? index id).isSome, m)
  | .deleteDocument index id => (.ok (), m.deleteDocument index id)
  | .deleteDocuments index query =>
    let (outcome, m) := m.deleteDocuments index query
    (.ok outcome, m)
  | .search pattern targets => (.ok (m.search pattern targets), m)
  | .ping => (.ok (), m)

end Memory

end ChatIndex
