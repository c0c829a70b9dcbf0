import ChatIndex.Text.Decimal
import ChatIndex.Text.Space

/-! # Configuration

The settings of the service, read from named variables.  A variable whose value is blank counts
as missing; whatever is looked up goes through `nonBlank`, so nothing downstream can tell the two
apart.  Faults are reported in a fixed order, the first one only.
-/

namespace ChatIndex

/-- The names of the indices.  Mails are written by another service and only searched here. -/
structure IndexNames where
  rooms : String
  messages : String
  mails : String
deriving DecidableEq, Repr, Inhabited

/-- Which messages a new display name is written to. -/
inductive DisplayNameScope where
  /-- Every message of the sender, in any room. -/
  | everywhere
  /-- The sender's messages in the room where the name changed. -/
  | room
deriving DecidableEq, Repr, Inhabited

/-- How to reach the search engine. -/
structure EngineSettings where
  url : String
  username : Option String
  password : Option String
  skipTlsVerify : Bool
deriving DecidableEq, Repr, Inhabited

/-- How to receive room events. -/
structure EventSource where
  brokers : String
  groupId : String
  topic : String
deriving DecidableEq, Repr, Inhabited

/-- All settings. -/
structure Config where
  databaseUrl : String
  databaseMaxConnections : Nat
  port : Nat
  engine : EngineSettings
  indices : IndexNames
  bootstrapOnStartup : Bool
  backfillBatchSize : Nat
  displayNameScope : DisplayNameScope
  adminToken : Option String
  events : Option EventSource
deriving DecidableEq, Repr, Inhabited

/-- What is wrong with the variables. -/
inductive ConfigError where
  | missing (key : String)
  | invalid (key value : String)
  | credentialsApart
  | batchSizeOutOfRange
  | unknownScope (value : String)
deriving DecidableEq, Repr, Inhabited

/-- The largest number of documents in one backfill request. -/
def maxBackfillBatchSize : Nat := 10000

/-- The fault in words. -/
def ConfigError.message : ConfigError → String
  | .missing key => key ++ " missing"
  | .invalid key value => key ++ " has an invalid value: '" ++ value ++ "'"
  | .credentialsApart => "SEARCH_ENGINE_USERNAME and SEARCH_ENGINE_PASSWORD must be set together"
  | .batchSizeOutOfRange =>
    "SEARCH_BACKFILL_BATCH_SIZE must be between 1 and " ++ maxBackfillBatchSize.repr
  | .unknownScope value =>
    "SEARCH_DISPLAY_NAME_SCOPE must be 'global' or 'room', got '" ++ value ++ "'"

/-! ## Reading single values -/

/-- Exactly `true` or `false`. -/
def bool? (s : String) : Option Bool :=
  if s = "true" then some true else if s = "false" then some false else none

/-- A scope by its name, in either case and with white space around it. -/
def DisplayNameScope.ofString (s : String) : Except ConfigError DisplayNameScope :=
  let name := Text.asciiLower (Text.trim s)
  if name = "global" then .ok .everywhere
  else if name = "room" then .ok .room
  else .error (.unknownScope name)

/-! ## Reading all settings -/

namespace Config

/-- A source of variables in which a blank value counts as missing. -/
def nonBlank (lookup : String → Option String) (key : String) : Option String :=
  (lookup key).filter fun value => !Text.isBlank value

/-- A required variable. -/
def require (var : String → Option String) (key : String) : Except ConfigError String :=
  match var key with
  | some value => .ok value
  | none => .error (.missing key)

/-- A variable that is read by `read` after trimming, or has a default. -/
def parseOr {α : Type} (read : String → Option α) (var : String → Option String) (key : String)
    (default : α) : Except ConfigError α :=
  match var key with
  | none => .ok default
  | some raw =>
    match read (Text.trim raw) with
    | some value => .ok value
    | none => .error (.invalid key raw)

/-- Credentials are given both or not at all. -/
def credentials (var : String → Option String) :
    Except ConfigError (Option String × Option String) :=
  match var "SEARCH_ENGINE_USERNAME", var "SEARCH_ENGINE_PASSWORD" with
  | some username, some password => .ok (some username, some password)
  | none, none => .ok (none, none)
  | _, _ => .error .credentialsApart

/-- The size of backfill requests. -/
def batchSize (var : String → Option String) : Except ConfigError Nat := do
  let size ← parseOr (Text.boundedNat? (Nat.pow 2 64 - 1)) var "SEARCH_BACKFILL_BATCH_SIZE" 500
  if 1 ≤ size ∧ size ≤ maxBackfillBatchSize then .ok size else .error .batchSizeOutOfRange

/-- The scope of display name changes. -/
def scope (var : String → Option String) : Except ConfigError DisplayNameScope :=
  match var "SEARCH_DISPLAY_NAME_SCOPE" with
  | some value => DisplayNameScope.ofString value
  | none => .ok .everywhere

/-- The event source, present iff brokers are given. -/
def eventSource? (var : String → Option String) : Option EventSource :=
  (var "KAFKA_BROKERS").map fun brokers =>
    { brokers
      groupId := (var "KAFKA_SEARCH_GROUP_ID").getD "room-search-service"
      topic := (var "KAFKA_ROOM_EVENTS_TOPIC").getD "room_events" }

/-- The names of the indices. -/
def indexNames (var : String → Option String) : IndexNames :=
  { rooms := (var "SEARCH_ROOMS_INDEX").getD "rooms"
    messages := (var "SEARCH_MESSAGES_INDEX").getD "messages"
    mails := (var "SEARCH_MAILS_INDEX").getD "mails" }

/-- All settings, from variables that are never blank. -/
def ofSettings (var : String → Option String) : Except ConfigError Config := do
  let databaseUrl ← require var "DATABASE_URL"
  let databaseMaxConnections ←
    parseOr (Text.boundedNat? (Nat.pow 2 32 - 1)) var "DATABASE_MAX_CONNECTIONS" 10
  let port ← parseOr (Text.boundedNat? (Nat.pow 2 16 - 1)) var "PORT" 8080
  let url ← require var "SEARCH_ENGINE_URL"
  let (username, password) ← credentials var
  let skipTlsVerify ← parseOr bool? var "SEARCH_ENGINE_SKIP_TLS_VERIFY" false
  let backfillBatchSize ← batchSize var
  let displayNameScope ← scope var
  let bootstrapOnStartup ← parseOr bool? var "SEARCH_BOOTSTRAP_ON_STARTUP" true
  pure {
    databaseUrl, databaseMaxConnections, port
    engine := { url, username, password, skipTlsVerify }
    indices := indexNames var
    bootstrapOnStartup, backfillBatchSize, displayNameScope
    adminToken := var "SEARCH_ADMIN_TOKEN"
    events := eventSource? var }

/-- All settings, from any source of variables. -/
def ofLookup (lookup : String → Option String) : Except ConfigError Config :=
  ofSettings (nonBlank lookup)

end Config

end ChatIndex
