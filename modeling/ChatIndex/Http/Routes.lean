import ChatIndex.Bootstrap
import ChatIndex.Http.Description
import ChatIndex.Http.Request
import ChatIndex.Json.Reader
import ChatIndex.Search
import ChatIndex.ServiceError

/-! # The paths of the service

`POST /search` searches on behalf of the account that an access token belongs to,
`POST /opensearch/restore` creates and fills missing indices for whoever has the administrative
token, `GET /health` tells whether the engine can be reached, and `GET /openapi.json` describes
the interface.  Everything else is not found.

A failure is answered with its envelope, which tells nothing about what happened inside.
-/

namespace ChatIndex.Http

open Attempt

/-! ## Answers -/

/-- An answer with a value. -/
def Response.ok (value : Json) : Response :=
  ⟨200, .json value⟩

/-- The answer to a path or method that is unknown. -/
def Response.notFound : Response :=
  ⟨404, .empty⟩

/-- The answer that reports a failure. -/
def Response.failure (now : String) (e : ServiceError) : Response :=
  ⟨e.status, .json (e.envelope now).toJson⟩

/-! ## Callers -/

/-- The account that a search runs for. -/
structure Caller where
  userId : String
  email : Option String
deriving DecidableEq, Repr, Inhabited

/-- The failure that a request to either side means. -/
def callFailure : CallError → ServiceError
  | .engine e => .ofEngineError e
  | .store e => .ofStoreError e

/-- The account that the access token of a request belongs to. -/
def caller (r : Request) : Attempt ServiceError Caller := do
  match r.bearerToken? with
  | none => throw .missingCredentials
  | some token =>
    let userId ← (read (.userOfToken token)).adapt callFailure
    match userId with
    | none => throw .unknownToken
    | some userId =>
      let email ← (read (.emailOfUser userId)).adapt callFailure
      return ⟨userId, email⟩

/-! ## One function for each path -/

/-- The text that the body of a search asks for. -/
def searchValue (body : List UInt8) : Except ServiceError String :=
  match Json.parse? body with
  | none => .error (.validation "request body must be a JSON object")
  | some value =>
    match value.getString? "searchValue" with
    | some text => .ok text
    | none => .error (.validation "searchValue must be a string")

/-- Searches for a text on behalf of a caller; a failure is written to the log. -/
def searchFor (names : IndexNames) (caller : Caller) (text : String) :
    Attempt ServiceError Response := do
  let answer ← ExceptT.lift (Search.run names text caller.userId caller.email).run
  match answer with
  | .ok results => return .ok results.toJson
  | .error e =>
    record .error ("Search failed: " ++ e.message) [("user_id", caller.userId)]
    throw (.ofQueryError e)

/-- `POST /search`.  The caller is known before the body is read. -/
def search (config : Config) (r : Request) : Attempt ServiceError Response := do
  let caller ← caller r
  match r.bodyFault? with
  | some fault => return fault.response
  | none =>
    match searchValue r.body with
    | .error e => throw e
    | .ok text => searchFor config.indices caller text

/-- Whether a request carries the administrative token. -/
def authorize (config : Config) (r : Request) : Attempt ServiceError Unit := do
  match config.adminToken with
  | none => throw .restoreDisabled
  | some expected =>
    if r.bearerToken? = some expected then
      return ()
    record .warn "Rejected administrative request" [("path", r.path)]
    throw .adminTokenInvalid

/-- `POST /opensearch/restore`. -/
def restore (config : Config) (r : Request) : Attempt ServiceError Response := do
  authorize config r
  let answer ← ExceptT.lift (Bootstrap.run config.backfillBatchSize config.indices).run
  match answer with
  | .ok report =>
    record .info "Manual restore finished" (Bootstrap.logFields report)
    return ⟨204, .empty⟩
  | .error e =>
    record .error ("Manual restore failed: " ++ e.inspect) []
    throw .restoreFailed

/-- `GET /health`. -/
def health : Attempt ServiceError Response := do
  let answer ← tryEngine .ping
  match answer with
  | .ok () => return ⟨200, .text "OK"⟩
  | .error e =>
    record .warn ("Health check failed: " ++ e.message) []
    throw (.unavailable "search engine unreachable")

/-! ## All paths -/

/-- What a request asks for. -/
inductive Route where
  | search
  | restore
  | health
  | describe
deriving DecidableEq, Repr

/-- A path with its percent escapes undone, each to the character of its number.  An escaped
percent sign, slash or plus sign stays as it is. -/
def decodePath : List Char → List Char
  | '%' :: a :: b :: rest =>
    match hexDigit? a, hexDigit? b with
    | some hi, some lo =>
      let c := Char.ofNat (hi * 16 + lo)
      if c = '%' ∨ c = '/' ∨ c = '+' then '%' :: decodePath (a :: b :: rest)
      else c :: decodePath rest
    | _, _ => '%' :: decodePath (a :: b :: rest)
  | c :: rest => c :: decodePath rest
  | [] => []
where
  /-- The value of a hexadecimal digit. -/
  hexDigit? (c : Char) : Option Nat :=
    if c.isDigit then some (c.toNat - '0'.toNat)
    else if 'a' ≤ c ∧ c ≤ 'f' then some (c.toNat - 'a'.toNat + 10)
    else if 'A' ≤ c ∧ c ≤ 'F' then some (c.toNat - 'A'.toNat + 10)
    else none

/-- What a method and a path ask for. -/
def route? (method : String) (path : String) : Option Route :=
  match method, path with
  | "POST", "/search" => some .search
  | "POST", "/opensearch/restore" => some .restore
  | "GET", "/health" => some .health
  | "GET", "/openapi.json" => some .describe
  | _, _ => none

/-- Carries out what a request asks for. -/
def serve (config : Config) (r : Request) : Route → Attempt ServiceError Response
  | .search => search config r
  | .restore => restore config r
  | .health => health
  | .describe => return .ok Description.document

/-- Answers a request, at a given time. -/
def respond (config : Config) (now : String) (r : Request) : Program Response :=
  match route? r.method (String.ofList (decodePath r.path.toList)) with
  | none => .done .notFound
  | some route => do
    let answer ← (serve config r route).run
    match answer with
    | .ok response => .done response
    | .error e => .done (.failure now e)

end ChatIndex.Http
