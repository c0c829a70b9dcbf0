import ChatIndex.Config
import ChatIndex.EngineClient.Answer
import ChatIndex.EngineClient.Body
import ChatIndex.EngineClient.Message
import ChatIndex.Text.Base64
import ChatIndex.Url

/-! # The client of the search engine

Each request of `EngineCall` is one exchange with the engine, or two where a document is looked
for before it is removed, or none where there is nothing to send.

One rule decides about every reply: the statuses from 200 to 208 are accepted, and 404 where the
request only asks whether something is there.  Every other reply ends the request with its status
and its text.  A reply that does not come, or whose body cannot be read, is a failure of the
transport.
-/

namespace ChatIndex

/-- A client: the path that its requests start with, and what it says to be let in. -/
structure EngineClient where
  basePath : String
  authorization : Option String
deriving DecidableEq, Repr, Inhabited

namespace EngineClient

/-- The header that carries a user name and a password. -/
def basicAuthorization (username password : String) : String :=
  "Basic " ++ Text.base64 (username ++ ":" ++ password)

/-- A client for the settings.  Credentials count only if both are given. -/
def ofSettings (settings : EngineSettings) : Except EngineError EngineClient :=
  match Url.parse settings.url with
  | .error e => .error (.invalidUrl e.message)
  | .ok url =>
    .ok {
      basePath := url.path
      authorization := match settings.username, settings.password with
        | some username, some password => some (basicAuthorization username password)
        | _, _ => none }

/-! ## Single exchanges -/

/-- A course of exchanges that may fail; a reply that does not come is `none`. -/
abbrev Attempt : Type → Type :=
  ExceptT EngineError (Course Request (fun _ => Option Reply))

/-- Whether a status is accepted; `missing` says whether 404 is. -/
def accepts (missing : Bool) (status : Nat) : Bool :=
  (200 ≤ status && status ≤ 208) || (missing && status == 404)

/-- What a reply means. -/
def judge (missing : Bool) (method : Method) : Option Reply → Except EngineError Reply
  | none => .error (.transport "no reply")
  | some reply =>
    if accepts missing reply.status then .ok reply
    else .error (.status reply.status (reply.content method))

/-- Sends a request and awaits a reply that is accepted. -/
def send (client : EngineClient) (missing : Bool) (method : Method) (target : String)
    (body : List Json) : Attempt Reply :=
  let request : Request := ⟨method, targetUnder client.basePath target, body, client.authorization⟩
  .mk (.call request fun reply => .done (judge missing method reply))

/-- Reads the body of an accepted reply. -/
def readReply {α : Type} (fields : Json.FieldList) (ofJson? : Json → Option α)
    (method : Method) (reply : Reply) : Except EngineError α :=
  match (Json.readAs? (.record fields) (Json.bytesOf (reply.content method))).bind ofJson? with
  | some value => .ok value
  | none => .error (.transport "unreadable reply")

/-! ## Requests of the engine -/

/-- Whether something is at a target. -/
def exists? (client : EngineClient) (target : String) : Attempt Bool := do
  let reply ← client.send true .head target []
  return reply.status != 404

/-- Writes documents. -/
def indexDocuments (client : EngineClient) (batch : BulkBatch) : Attempt Unit := do
  let lines := bulkLines batch
  if lines.isEmpty then
    return ()
  let reply ← client.send false .post "/_bulk" lines
  let result ← ExceptT.mk (pure (readReply BulkReply.fields BulkReply.ofJson? .post reply))
  -- An accepted reply may still reject single documents.
  if !result.rejections.isEmpty then
    throw (.bulkFailure result.rejections)

/-- Changes or removes documents by query. -/
def byQuery (client : EngineClient) (target : String) (body : Json) : Attempt ByQueryOutcome := do
  let reply ← client.send false .post target [body]
  .mk (pure (readReply byQueryFields byQueryOutcome? .post reply))

/-- The target of a document. -/
def documentTarget (index id : String) : String :=
  "/" ++ segment index ++ "/_doc/" ++ segment id

/-- Removes a document, if it is there. -/
def deleteDocument (client : EngineClient) (index id : String) : Attempt Unit := do
  let present ← client.exists? (documentTarget index id)
  if present then
    -- The document may be gone by now, which is just as well.
    let _ ← client.send true .delete (documentTarget index id) []

/-- Searches several indices at once. -/
def search (client : EngineClient) (pattern : String) (targets : List IndexFields) :
    Attempt (List (List SearchHit)) := do
  if targets.isEmpty then
    return []
  let reply ← client.send false .post "/_msearch" (searchLines pattern targets)
  let replies ← ExceptT.mk (pure (readReply searchRepliesFields searchReplies? .post reply))
  .mk (pure (hitLists targets.length replies))

/-- Carries out a request of the engine. -/
def perform (client : EngineClient) : (c : EngineCall) → Attempt c.Value
  | .createIndex name mapping => do
    let _ ← client.send false .put ("/" ++ segment name) [mapping]
  | .indexExists name => client.exists? ("/" ++ segment name)
  | .indexDocuments batch => client.indexDocuments batch
  | .updateDocument index id fields => do
    let target := "/" ++ segment index ++ "/_update/" ++ segment id
    let _ ← client.send false .post target [mergeBody fields]
  | .updateDocuments index field value query =>
    client.byQuery ("/" ++ segment index ++ "/_update_by_query?conflicts=proceed")
      (updateBody field value query)
  | .documentExists index id => client.exists? (documentTarget index id)
  | .deleteDocument index id => client.deleteDocument index id
  | .deleteDocuments index query =>
    client.byQuery ("/" ++ segment index ++ "/_delete_by_query?conflicts=proceed")
      (deleteBody query)
  | .search pattern targets => client.search pattern targets
  | .ping => do
    let _ ← client.send false .head "/" []

/-- Carries out a request of the engine against a server: the result, and the server after it. -/
def runAgainst (client : EngineClient) (c : EngineCall) (server : Server) :
    Except EngineError c.Value × Server :=
  let run := (client.perform c).run.run Server.handler server
  (run.value, run.state)

end EngineClient

end ChatIndex
