import ChatIndex.Course
import ChatIndex.Json
import ChatIndex.Text.Percent

/-! # Messages between client and engine

The engine is reached over HTTP.  A request names its target by path and query and carries a list
of JSON lines; a reply has a status and a text.  Where no reply comes the exchange has failed.

The server at the other end is either out of reach, so that no request ever gets to it, or it
answers each request with the next of its replies and then falls silent.
-/

namespace ChatIndex.EngineClient

/-- The methods that the client uses. -/
inductive Method where
  | head
  | put
  | post
  | delete
deriving DecidableEq, Repr, Inhabited

/-- The name of a method. -/
def Method.name : Method → String
  | .head => "HEAD"
  | .put => "PUT"
  | .post => "POST"
  | .delete => "DELETE"

/-- A request as it is sent.  The body is one JSON text for each line. -/
structure Request where
  method : Method
  target : String
  body : List Json
  authorization : Option String
deriving DecidableEq, Repr, Inhabited

/-- A reply as it is sent. -/
structure Reply where
  status : Nat
  body : String
deriving DecidableEq, Repr, Inhabited

/-- The text of a reply that arrives: none for `HEAD` and for the statuses that have no body. -/
def Reply.content (reply : Reply) (method : Method) : String :=
  if method = .head ∨ reply.status = 204 ∨ reply.status = 304 then "" else reply.body

/-- The server at the other end: the replies it has left, unless it is out of reach, and the
requests it got so far. -/
structure Server where
  replies : Option (List Reply)
  received : List Request
deriving DecidableEq, Repr, Inhabited

namespace Server

/-- A server that is out of reach. -/
def unreachable : Server :=
  ⟨none, []⟩

/-- A server with replies to give. -/
def ofReplies (replies : List Reply) : Server :=
  ⟨some replies, []⟩

/-- The reply to a request. -/
def handler : Handler Request (fun _ => Option Reply) Server := fun request server =>
  match server.replies with
  | none => (none, server)
  | some [] => (none, { server with received := server.received ++ [request] })
  | some (reply :: replies) => (some reply, ⟨some replies, server.received ++ [request]⟩)

end Server

/-! ## Targets -/

/-- The ASCII characters of an index name or id that are not escaped in a path. -/
def isPlainInPath (c : Char) : Bool :=
  c.isAlphanum || "_-.,*".toList.contains c

/-- An index name or id as a segment of a path. -/
def segment (name : String) : String :=
  Text.percentEncode isPlainInPath name

/-- A target under the path of the server, with one slash between them. -/
def targetUnder (basePath target : String) : String :=
  let base := basePath.toList.reverse.dropWhile (· = '/')
  String.ofList (base.reverse ++ '/' :: target.toList.dropWhile (· = '/'))

end ChatIndex.EngineClient
