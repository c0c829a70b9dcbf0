import ChatIndex.Engine

/-! # Bodies of requests to the engine

Bulk and search requests are lists of lines in pairs: the first line of a pair says where the
second one goes.  By-query requests are one object.
-/

namespace ChatIndex.EngineClient

/-! ## Bulk requests -/

/-- The line that announces a document. -/
def actionLine (index : String) (d : BulkDocument) : Json :=
  .ofMembers
    [(d.action.name, .ofMembers [("_index", .string index), ("_id", .string d.id)])]

/-- Two lines for a document: what to do, and the fields. -/
def documentLines (index : String) (d : BulkDocument) : List Json :=
  [actionLine index d, .ofDocument d.fields]

/-- Two lines for each document, indices in ascending order. -/
def bulkLines (batch : BulkBatch) : List Json :=
  batch.entries.flatMap fun (index, ds) => ds.flatMap (documentLines index)

/-! ## Requests by query -/

/-- A query that every condition must fulfil. -/
def queryJson (query : DocumentQuery) : Json :=
  let clause (field value : String) : Json :=
    .ofMembers [("match", .ofMembers [(field, .string value)])]
  let filters := query.conditions.map fun (field, value) => clause field value
  .ofMembers [("bool", .ofMembers [("filter", .array filters)])]

/-- The body that removes documents. -/
def deleteBody (query : DocumentQuery) : Json :=
  .ofMembers [("query", queryJson query)]

/-- The body that sets a field of documents. -/
def updateBody (field : String) (value : Json) (query : DocumentQuery) : Json :=
  .ofMembers
    [("script", .ofMembers
        [("source", .string ("ctx._source['" ++ field ++ "'] = params.value")),
         ("lang", .string "painless"), ("params", .ofMembers [("value", value)])]),
     ("query", queryJson query)]

/-- The body that merges fields into a document. -/
def mergeBody (fields : Document) : Json :=
  .ofMembers [("doc", .ofDocument fields)]

/-! ## Searches -/

/-- How many hits are fetched from each index; there is no second page. -/
def maxHits : Nat := 1000

/-- The clause that matches a pattern against a field. -/
def patternClause (pattern field : String) : Json :=
  .ofMembers
    [("regexp", .ofMembers
        [(field, .ofMembers
            [("value", .string pattern), ("flags", .string "ALL"),
             ("case_insensitive", .bool true)])])]

/-- Two lines for an index: its name, and the query over its fields. -/
def targetLines (pattern : String) (target : IndexFields) : List Json :=
  [.ofMembers [("index", .string target.index)],
   .ofMembers
     [("size", .ofNat maxHits),
      ("query", .ofMembers
         [("bool", .ofMembers
             [("should", .array (target.fields.map (patternClause pattern))),
              ("minimum_should_match", .ofNat 1)])])]]

/-- Two lines for each index, in order. -/
def searchLines (pattern : String) (targets : List IndexFields) : List Json :=
  targets.flatMap (targetLines pattern)

end ChatIndex.EngineClient
