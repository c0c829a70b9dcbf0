import ChatIndex.Json.Record
import ChatIndex.Search

/-! # Errors as clients see them

Every failure that leaves the service is one of these causes.  A cause has a status, a class, a
code and a message.  What went wrong inside the engine or the database is kept as a detail that
is never part of the message.
-/

namespace ChatIndex

/-- A failure of the service. -/
inductive ServiceError where
  | config (reason : String)
  | startServer (reason : String)
  | validation (reason : String)
  | missingCredentials
  /-- The access token belongs to no known account. -/
  | unknownToken
  | adminTokenInvalid
  | restoreDisabled
  | searchEngine (detail : String)
  | database (detail : String)
  | restoreFailed
  | unavailable (reason : String)
deriving DecidableEq, Repr, Inhabited

namespace ServiceError

/-- The failure in words that a client may see. -/
def message : ServiceError → String
  | .config reason => "configuration error: " ++ reason
  | .startServer reason => "server start failure: " ++ reason
  | .validation reason => reason
  | .missingCredentials => "missing bearer token"
  | .unknownToken => "access token does not belong to a known account"
  | .adminTokenInvalid => "invalid administrative token"
  | .restoreDisabled => "restore is disabled on this instance"
  | .searchEngine _ => "search engine error"
  | .database _ => "database error"
  | .restoreFailed => "restore failed"
  | .unavailable reason => "service unavailable: " ++ reason

/-- What a client does not see. -/
def detail? : ServiceError → Option String
  | .searchEngine detail | .database detail => some detail
  | _ => none

/-- The status of the answer. -/
def status : ServiceError → Nat
  | .validation _ => 400
  | .missingCredentials | .unknownToken => 401
  | .adminTokenInvalid | .restoreDisabled => 403
  | .searchEngine _ => 502
  | .unavailable _ => 503
  | .database _ | .restoreFailed | .config _ | .startServer _ => 500

/-- The class of the failure. -/
def errorType : ServiceError → String
  | .validation _ => "validation_error"
  | .missingCredentials | .unknownToken => "authentication_error"
  | .adminTokenInvalid | .restoreDisabled => "authorization_error"
  | .unavailable _ => "service_unavailable_error"
  | .searchEngine _ | .database _ | .restoreFailed | .config _ | .startServer _ => "server_error"

/-- The code of the failure. -/
def code : ServiceError → String
  | .validation _ => "SEARCH_VALUE_INVALID"
  | .missingCredentials => "TOKEN_MISSING"
  | .unknownToken => "TOKEN_INVALID"
  | .adminTokenInvalid => "ADMIN_TOKEN_INVALID"
  | .restoreDisabled => "RESTORE_DISABLED"
  | .searchEngine _ => "SEARCH_ENGINE_ERROR"
  | .database _ => "DATABASE_ERROR"
  | .restoreFailed => "RESTORE_FAILED"
  | .unavailable _ => "SERVICE_UNAVAILABLE"
  | .config _ | .startServer _ => "INTERNAL_SERVER_ERROR"

/-- The failure that an error of the engine means. -/
def ofEngineError (e : EngineError) : ServiceError :=
  .searchEngine e.message

/-- The failure that an error of the read model means. -/
def ofStoreError (e : StoreError) : ServiceError :=
  .database e.message

/-- The failure that an error of a search means. -/
def ofQueryError : QueryError → ServiceError
  | .invalid reason => .validation reason
  | .call (.engine e) => .ofEngineError e
  | .call (.store e) => .ofStoreError e

end ServiceError

/-! ## The envelope -/

/-- The body of an answer that reports a failure. -/
structure ErrorEnvelope where
  error : String
  status : Nat
  errorType : String
  code : String
  timestamp : String
deriving DecidableEq, Repr, Inhabited

namespace ErrorEnvelope

/-- The fields of the record form. -/
def fields : Json.FieldList :=
  [("error", .required, .any), ("status", .required, .any), ("error_type", .required, .any),
   ("code", .required, .any), ("timestamp", .required, .any)]

/-- The envelope that a value denotes; a status has 16 bits. -/
def ofJson? (value : Json) : Option ErrorEnvelope := do
  let members ← value.record? fields
  pure {
    error := ← Json.field? members "error"
    status := ← (Entries.get? members "status").bind (Json.asNat? (Nat.pow 2 16 - 1))
    errorType := ← Json.field? members "error_type"
    code := ← Json.field? members "code"
    timestamp := ← Json.field? members "timestamp" }

/-- The envelope as a value. -/
def toJson (e : ErrorEnvelope) : Json :=
  .ofMembers
    [("error", .string e.error), ("status", .ofNat e.status), ("error_type", .string e.errorType),
     ("code", .string e.code), ("timestamp", .string e.timestamp)]

end ErrorEnvelope

/-- The envelope of a failure at a time. -/
def ServiceError.envelope (e : ServiceError) (now : String) : ErrorEnvelope :=
  ⟨e.message, e.status, e.errorType, e.code, now⟩

end ChatIndex
