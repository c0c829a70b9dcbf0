import ChatIndex.Json.Printer
import ChatIndex.Text.Quoted

/-! # The search engine

What the services may ask of a search engine, and how such a request can fail.  A bulk request
carries documents for any number of indices; a by-query request changes or removes every
document whose fields have given texts; a search matches one regular expression against given
fields of several indices and answers with one list of hits for each.
-/

namespace ChatIndex

/-! ## Errors -/

/-- A document that a bulk request rejected. -/
structure Rejection where
  index : String
  id : String
  status : Nat
  reason : String
deriving DecidableEq, Repr, Inhabited

/-- A rejected document with its data, as it stands in a log record. -/
def Rejection.inspect (r : Rejection) : String :=
  "BulkItemFailure \x7b index: " ++ Text.quote r.index ++ ", id: " ++ Text.quote r.id ++
    ", status: " ++ r.status.repr ++ ", reason: " ++ Text.quote r.reason ++ " \x7d"

/-- Why a request to the engine failed. -/
inductive EngineError where
  /-- The engine answered with a status that means failure. -/
  | status (code : Nat) (body : String)
  | bulkFailure (rejections : List Rejection)
  | invalidUrl (reason : String)
  | transportBuild (reason : String)
  | transport (reason : String)
  | invalidResponse (reason : String)
  /-- A value did not have the form of the record it was read as. -/
  | serialization (reason : String)
deriving DecidableEq, Repr, Inhabited

namespace EngineError

/-- The error in words. -/
def message : EngineError → String
  | .status code body => "search engine responded with status " ++ code.repr ++ ": " ++ body
  | .bulkFailure rejections =>
    "bulk request rejected " ++ rejections.length.repr ++ " document(s)"
  | .invalidUrl reason => "invalid search engine URL: " ++ reason
  | .transportBuild reason => "failed to build transport: " ++ reason
  | .transport reason => "transport error: " ++ reason
  | .invalidResponse reason => "unexpected search engine response: " ++ reason
  | .serialization reason => "serialization error: " ++ reason

/-- The error with all its data, as it stands in a log record.  The words of a library are not
taken apart. -/
def inspect : EngineError → String
  | .status code body =>
    "Engine \x7b status: " ++ code.repr ++ ", body: " ++ Text.quote body ++ " \x7d"
  | .bulkFailure rejections =>
    "BulkFailure \x7b failures: [" ++ ", ".intercalate (rejections.map Rejection.inspect) ++
      "] \x7d"
  | .invalidUrl reason => "InvalidUrl(" ++ reason ++ ")"
  | .transportBuild reason => "TransportBuild(" ++ Text.quote reason ++ ")"
  | .transport reason => "Transport(" ++ Text.quote reason ++ ")"
  | .invalidResponse reason => "InvalidResponse(" ++ Text.quote reason ++ ")"
  | .serialization reason => "Serde(Error(" ++ Text.quote reason ++ ", line: 0, column: 0))"

/-- The status code, where the failure came from the engine. -/
def statusCode? : EngineError → Option Nat
  | .status code _ => some code
  | _ => none

end EngineError

/-! ## Requests -/

/-- How a document of a bulk request is written. -/
inductive BulkAction where
  /-- Rejected if the id already exists. -/
  | create
  /-- Written over the document of that id, if there is one. -/
  | index
deriving DecidableEq, Repr, Inhabited

/-- The name of an action. -/
def BulkAction.name : BulkAction → String
  | .create => "create"
  | .index => "index"

/-- A document of a bulk request. -/
structure BulkDocument where
  id : String
  action : BulkAction
  fields : Document
deriving DecidableEq, Inhabited

/-- Documents by the index they go to. -/
abbrev BulkBatch := KeyMap (List BulkDocument)

/-- A bulk entry for a value, which must be an object. -/
def BulkDocument.ofJson (id : String) (action : BulkAction) (value : Json) :
    Except EngineError BulkDocument :=
  match value.asObject? with
  | some fields => .ok ⟨id, action, fields⟩
  | none =>
    .error (.invalidResponse ("document must serialize to an object, got " ++ value.print))

/-- A condition on documents: each named field is exactly the given text. -/
structure DocumentQuery where
  conditions : List (String × String)
deriving DecidableEq, Repr, Inhabited

namespace DocumentQuery

/-- The condition that one field has a text. -/
def field (name value : String) : DocumentQuery :=
  ⟨[(name, value)]⟩

/-- A further condition. -/
def and (query : DocumentQuery) (name value : String) : DocumentQuery :=
  ⟨query.conditions ++ [(name, value)]⟩

/-- Whether a document fulfils every condition. -/
def isMatch (query : DocumentQuery) (document : Document) : Bool :=
  query.conditions.all fun (name, value) => document.get? name = some (.string value)

end DocumentQuery

/-- What a by-query request did.  Conflicts and failures leave documents as they were. -/
structure ByQueryOutcome where
  matched : Nat
  applied : Nat
  versionConflicts : Nat
  failures : Nat
deriving DecidableEq, Repr, Inhabited

/-- The fields of one index that a search looks at. -/
structure IndexFields where
  index : String
  fields : List String
deriving DecidableEq, Repr, Inhabited

/-- A document that a search found. -/
structure SearchHit where
  index : String
  id : String
  score : Option Binary64
  source : Document
deriving DecidableEq, Inhabited

/-- A request to the engine. -/
inductive EngineCall where
  | createIndex (name : String) (mapping : Json)
  | indexExists (name : String)
  | indexDocuments (batch : BulkBatch)
  /-- Merges fields into an existing document. -/
  | updateDocument (index id : String) (fields : Document)
  /-- Sets a field of every document that fulfils the query. -/
  | updateDocuments (index field : String) (value : Json) (query : DocumentQuery)
  | documentExists (index id : String)
  /-- Removes a document, if it is there. -/
  | deleteDocument (index id : String)
  /-- Removes every document that fulfils the query. -/
  | deleteDocuments (index : String) (query : DocumentQuery)
  | search (pattern : String) (targets : List IndexFields)
  | ping
deriving DecidableEq, Inhabited

namespace EngineCall

/-- What a request that succeeds answers. -/
abbrev Value : EngineCall → Type
  | .indexExists _ | .documentExists _ _ => Bool
  | .updateDocuments .. | .deleteDocuments .. => ByQueryOutcome
  | .search .. => List (List SearchHit)
  | .createIndex .. | .indexDocuments _ | .updateDocument .. | .deleteDocument .. | .ping => Unit

/-- The name of a request. -/
def name : EngineCall → String
  | .createIndex .. => "create_index"
  | .indexExists _ => "index_exists"
  | .indexDocuments _ => "index_documents"
  | .updateDocument .. => "update_document"
  | .updateDocuments .. => "update_documents"
  | .documentExists .. => "document_exists"
  | .deleteDocument .. => "delete_document"
  | .deleteDocuments .. => "delete_documents"
  | .search .. => "search_on_multiple_indexes"
  | .ping => "ping"

end EngineCall

end ChatIndex
