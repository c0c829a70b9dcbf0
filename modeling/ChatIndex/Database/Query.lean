import ChatIndex.Course
import ChatIndex.ReadModel

/-! # Queries to the database

A query is a text with numbered parameters; its reply is a list of rows, or an error in the
server's words.  The server at the other end is either out of reach, for a stated reason, or it
answers each query with the next of its replies.
-/

namespace ChatIndex.Database

/-- The value of a column. -/
inductive Cell where
  | null
  | text (s : String)
  | bool (b : Bool)
deriving DecidableEq, Repr, Inhabited

/-- A row, with its columns in the order of the query. -/
abbrev Row := List Cell

/-- A parameter of a query. -/
inductive Param where
  | text (s : String)
  | texts (ss : List String)
  /-- The current time, in milliseconds. -/
  | now
deriving DecidableEq, Repr, Inhabited

/-- A query. -/
structure Query where
  sql : String
  params : List Param
deriving DecidableEq, Repr, Inhabited

/-- The reply to a query. -/
inductive Reply where
  | rows (rows : List Row)
  | error (message : String)
deriving DecidableEq, Repr, Inhabited

/-- Why a query gave no value. -/
inductive Failure where
  /-- The server refused the query. -/
  | server (message : String)
  /-- The server could not be reached, or did not reply. -/
  | connection (reason : String)
  | noRows
  /-- A row does not have the columns that were asked for. -/
  | malformedRow
deriving DecidableEq, Repr, Inhabited

/-- The failure in words. -/
def Failure.message : Failure → String
  | .server message => "error returned from database: " ++ message
  | .connection reason => "error communicating with database: " ++ reason
  | .noRows => "no rows returned by a query that expected to return at least one row"
  | .malformedRow => "error occurred while decoding a row"

/-- What a query answers. -/
abbrev Answer : Type :=
  Except Failure (List Row)

/-- A course of queries that may fail. -/
abbrev Attempt : Type → Type :=
  ExceptT StoreError (Course Query (fun _ => Answer))

/-- The server at the other end: the replies it has left, or why it cannot be reached, and the
queries it got so far. -/
structure Server where
  replies : Except String (List Reply)
  received : List Query

namespace Server

/-- A server that cannot be reached. -/
def unreachable (reason : String) : Server :=
  ⟨.error reason, []⟩

/-- A server with replies to give. -/
def ofReplies (replies : List Reply) : Server :=
  ⟨.ok replies, []⟩

/-- The answer to a query. -/
def handler : Handler Query (fun _ => Answer) Server := fun query server =>
  match server.replies with
  | .error reason => (.error (.connection reason), server)
  | .ok [] =>
    (.error (.connection "no reply"), { server with received := server.received ++ [query] })
  | .ok (.rows rows :: replies) => (.ok rows, ⟨.ok replies, server.received ++ [query]⟩)
  | .ok (.error message :: replies) =>
    (.error (.server message), ⟨.ok replies, server.received ++ [query]⟩)

/-- A connection is opened before the first query; it fails if the server cannot be reached. -/
def connect (server : Server) : Except Failure Unit :=
  match server.replies with
  | .error reason => .error (.connection reason)
  | .ok _ => .ok ()

end Server

/-! ## Reading rows -/

/-- A column that is a text or null. -/
def optionalText? : Cell → Option (Option String)
  | .null => some none
  | .text s => some (some s)
  | .bool _ => none

/-- A column that is a text. -/
def text? : Cell → Option String
  | .text s => some s
  | _ => none

/-- A column that is a truth value. -/
def bool? : Cell → Option Bool
  | .bool b => some b
  | _ => none

/-- A column that is a truth value or null. -/
def optionalBool? : Cell → Option (Option Bool)
  | .null => some none
  | .bool b => some (some b)
  | .text _ => none

/-- The error that a failure means to whoever asked the read model. -/
def storeError (f : Failure) : StoreError :=
  .database f.message

/-- Asks for rows. -/
def rows (query : Query) : Attempt (List Row) :=
  .mk (.call query fun answer => .done (answer.mapError storeError))

/-- A row read by `read`. -/
def readRow {α : Type} (read : Row → Option α) (row : Row) : Except StoreError α :=
  match read row with
  | some value => .ok value
  | none => .error (storeError .malformedRow)

/-- Asks for all rows. -/
def all {α : Type} (read : Row → Option α) (query : Query) : Attempt (List α) := do
  let found ← rows query
  .mk (pure (found.mapM (readRow read)))

/-- Asks for the first row, if there is one. -/
def first? {α : Type} (read : Row → Option α) (query : Query) : Attempt (Option α) := do
  let found ← rows query
  match found with
  | [] => return none
  | row :: _ => .mk (pure ((readRow read row).map some))

/-- Asks for the first row, which must be there. -/
def one {α : Type} (read : Row → Option α) (query : Query) : Attempt α := do
  let found ← first? read query
  match found with
  | some value => return value
  | none => throw (storeError .noRows)

end ChatIndex.Database
