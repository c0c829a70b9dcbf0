import ChatIndex.Course
import ChatIndex.Engine
import ChatIndex.ReadModel

/-! # Programs

The services do their work by requests to the engine and questions to the read model.  A
`Program` is a course of such requests; an `Attempt` is one that may fail.
-/

namespace ChatIndex

/-! ## Requests and their answers -/

/-- A request to either side. -/
inductive Call where
  | engine (c : EngineCall)
  | read (c : ReadCall)
deriving DecidableEq, Inhabited

/-- The failure of a request to either side. -/
inductive CallError where
  | engine (e : EngineError)
  | store (e : StoreError)
deriving DecidableEq, Repr, Inhabited

/-- The error in words, with the side that it comes from. -/
def CallError.message : CallError → String
  | .engine e => "search engine error: " ++ e.message
  | .store e => "read model error: " ++ e.message

/-- The error with all its data and the side that it comes from, as it stands in a log record. -/
def CallError.inspect : CallError → String
  | .engine e => "Search(" ++ e.inspect ++ ")"
  | .store e => "Store(" ++ e.inspect ++ ")"

/-- The status code, where the failure came from the engine. -/
def CallError.statusCode? : CallError → Option Nat
  | .engine e => e.statusCode?
  | .store _ => none

namespace Call

/-- What a request that succeeds answers. -/
abbrev Value : Call → Type
  | .engine c => c.Value
  | .read c => c.Value

/-- How a request can fail. -/
abbrev Failure : Call → Type
  | .engine _ => EngineError
  | .read _ => StoreError

/-- What a request answers. -/
abbrev Answer (c : Call) : Type :=
  Except c.Failure c.Value

/-- The failure of a request, with its side. -/
def toCallError : (c : Call) → c.Failure → CallError
  | .engine _, e => .engine e
  | .read _, e => .store e

/-- The name of a request. -/
def name : Call → String
  | .engine c => c.name
  | .read c => c.name

end Call

/-! ## Programs -/

/-- A course of requests to the engine and the read model. -/
abbrev Program : Type → Type :=
  Course Call Call.Answer

/-- A program that may fail. -/
abbrev Attempt (ε : Type) : Type → Type :=
  ExceptT ε (Course Call Call.Answer)

namespace Attempt

/-- Makes a request and passes its failure on. -/
def ask (c : Call) : Attempt CallError c.Value :=
  .mk (.call c fun answer => .done (answer.mapError c.toCallError))

/-- Makes a request to the engine and passes its failure on. -/
def engine (c : EngineCall) : Attempt CallError c.Value :=
  ask (.engine c)

/-- Makes a request to the engine and hands over its answer, a failure too. -/
def tryEngine {ε : Type} (c : EngineCall) : Attempt ε (Except EngineError c.Value) :=
  ExceptT.lift (Course.ask (Call.engine c))

/-- Asks the read model and passes its failure on. -/
def read (c : ReadCall) : Attempt CallError c.Value :=
  ask (.read c)

/-- Writes a log record. -/
def record {ε : Type} (level : LogLevel) (message : String) (fields : List (String × String)) :
    Attempt ε Unit :=
  ExceptT.lift (Course.record level message fields)

end Attempt

end ChatIndex
