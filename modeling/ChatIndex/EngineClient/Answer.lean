import ChatIndex.Engine
import ChatIndex.Json.Record

/-! # Replies of the engine

The records that replies to bulk requests, by-query requests and searches carry.  Fields that
are not named here are skipped unread.
-/

namespace ChatIndex.EngineClient

open Json

/-- A field that is a number up to a limit, and zero when missing. -/
def countField? (limit : Nat) (members : List (String × Json)) (name : String) : Option Nat :=
  match Entries.get? members name with
  | none => some 0
  | some value => value.asNat? limit

/-- The largest number of 64 bits. -/
def maxCount : Nat := Nat.pow 2 64 - 1

/-- The largest status, a number of 16 bits. -/
def maxStatus : Nat := Nat.pow 2 16 - 1

/-- The items of a field that is a list, and none when it is missing. -/
def listField? (members : List (String × Json)) (name : String) : Option (List Json) :=
  match Entries.get? members name with
  | none => some []
  | some value => value.asArray?

/-! ## Bulk replies -/

/-- What became of a document of a bulk request. -/
structure BulkItem where
  index : String
  id : String
  status : Nat
  error : Option Json
deriving DecidableEq, Inhabited

/-- The reply to a bulk request: whether anything was rejected, and the items in order. -/
structure BulkReply where
  errors : Bool
  items : List BulkItem
deriving DecidableEq, Inhabited

/-- The fields of an item. -/
def BulkItem.fields : FieldList :=
  [("_index", .defaulted, .any), ("_id", .defaulted, .any), ("status", .defaulted, .any),
   ("error", .defaulted, .any)]

/-- The item that a value denotes. -/
def BulkItem.ofJson? (value : Json) : Option BulkItem := do
  let members ← value.record? fields
  pure {
    index := ← fieldOrEmpty? members "_index"
    id := ← fieldOrEmpty? members "_id"
    status := ← countField? maxStatus members "status"
    error := ← optionalField? some members "error" }

/-- The items of one entry of the reply, which names them by their action. -/
def BulkItem.ofEntry? (value : Json) : Option (List BulkItem) :=
  match value with
  | .object members => members.mapM fun (_, item) => ofJson? item
  | _ => none

/-- The fields of a bulk reply. -/
def BulkReply.fields : FieldList :=
  [("errors", .defaulted, .any), ("items", .defaulted, .list (.table (.record BulkItem.fields)))]

/-- The reply that a value denotes. -/
def BulkReply.ofJson? (value : Json) : Option BulkReply := do
  let members ← value.record? fields
  let errors ← match Entries.get? members "errors" with
    | none => some false
    | some value => value.asBool?
  let entries ← listField? members "items"
  let items ← entries.mapM BulkItem.ofEntry?
  pure ⟨errors, items.flatten⟩

/-- Why a document was rejected, in words: the reason that the error gives, else its type, else
the error itself. -/
def reasonOf (error : Json) : String :=
  match error.getString? "reason", error.getString? "type" with
  | some reason, _ => reason
  | none, some type => type
  | none, none => error.print

/-- The rejection that an item reports, if its error is not `null`. -/
def BulkItem.rejection? (item : BulkItem) : Option Rejection :=
  item.error.map fun error => ⟨item.index, item.id, item.status, reasonOf error⟩

/-- The rejections that a reply reports; none unless it says that there are errors. -/
def BulkReply.rejections (reply : BulkReply) : List Rejection :=
  if reply.errors then reply.items.filterMap BulkItem.rejection? else []

/-! ## By-query replies -/

/-- The fields of a by-query reply. -/
def byQueryFields : FieldList :=
  [("total", .defaulted, .any), ("updated", .defaulted, .any), ("deleted", .defaulted, .any),
   ("version_conflicts", .defaulted, .any), ("failures", .defaulted, .list .any)]

/-- The sum of two counts, in 64 bits again: past the largest count it starts over at zero. -/
def addCounts (m n : Nat) : Nat :=
  (m + n) % (maxCount + 1)

/-- What a by-query reply reports. -/
def byQueryOutcome? (value : Json) : Option ByQueryOutcome := do
  let members ← value.record? byQueryFields
  let total ← countField? maxCount members "total"
  let updated ← countField? maxCount members "updated"
  let deleted ← countField? maxCount members "deleted"
  let versionConflicts ← countField? maxCount members "version_conflicts"
  let failures ← listField? members "failures"
  pure ⟨total, addCounts updated deleted, versionConflicts, failures.length⟩

/-! ## Replies to searches -/

/-- The reply for one index of a search. -/
structure SearchReply where
  status : Option Nat
  error : Option Json
  hits : List SearchHit
deriving DecidableEq, Inhabited

/-- The fields of a hit. -/
def hitFields : FieldList :=
  [("_index", .required, .any), ("_id", .required, .any), ("_score", .defaulted, .any),
   ("_source", .defaulted, .any)]

/-- A number as a float. -/
def float? : Json → Option Binary64
  | .number (.float x) => some x
  | .number (.int i) => Binary64.ofRatio? (i < 0) i.natAbs 1
  | _ => none

/-- The hit that a value denotes. -/
def hit? (value : Json) : Option SearchHit := do
  let members ← value.record? hitFields
  let source ← match Entries.get? members "_source" with
    | none => some KeyMap.empty
    | some value => value.asObject?
  pure {
    index := ← field? members "_index"
    id := ← field? members "_id"
    score := ← optionalField? float? members "_score"
    source }

/-- The fields of the envelope around hits. -/
def hitsFields : FieldList :=
  [("hits", .required, .list (.record hitFields))]

/-- The hits inside their envelope. -/
def hits? (value : Json) : Option (List SearchHit) := do
  let members ← value.record? hitsFields
  let items ← (Entries.get? members "hits").bind asArray?
  items.mapM hit?

/-- The fields of the reply for one index. -/
def searchReplyFields : FieldList :=
  [("status", .defaulted, .any), ("error", .defaulted, .any),
   ("hits", .defaulted, .record hitsFields)]

/-- The reply for one index that a value denotes. -/
def searchReply? (value : Json) : Option SearchReply := do
  let members ← value.record? searchReplyFields
  pure {
    status := ← optionalField? (Json.asNat? maxStatus) members "status"
    error := ← optionalField? some members "error"
    hits := (← optionalField? hits? members "hits").getD [] }

/-- The fields of the reply to a search. -/
def searchRepliesFields : FieldList :=
  [("responses", .required, .list (.record searchReplyFields))]

/-- The replies for all indices that a value denotes. -/
def searchReplies? (value : Json) : Option (List SearchReply) := do
  let members ← value.record? searchRepliesFields
  let items ← (Entries.get? members "responses").bind asArray?
  items.mapM searchReply?

/-- The hits for one index, unless the engine reports an error for it. -/
def SearchReply.outcome (reply : SearchReply) : Except EngineError (List SearchHit) :=
  match reply.error with
  | some error => .error (.status (reply.status.getD 500) error.print)
  | none => .ok reply.hits

/-- The hits for all indices.  There must be as many replies as indices were searched; the first
error for one of them is that of the whole search. -/
def hitLists (expected : Nat) (replies : List SearchReply) :
    Except EngineError (List (List SearchHit)) :=
  if replies.length = expected then replies.mapM SearchReply.outcome
  else
    .error (.invalidResponse ("expected " ++ expected.repr ++ " search responses, got " ++
      replies.length.repr))

end ChatIndex.EngineClient
