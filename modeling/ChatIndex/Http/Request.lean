import ChatIndex.Json
import ChatIndex.Text.Decimal
import ChatIndex.Text.Space

/-! # Requests and answers over HTTP

A request as it reaches the service and an answer as it leaves it.  The caller is named by a
bearer token in the header `authorization`, of which the first one counts.  A body is read up to a
limit.
-/

namespace ChatIndex.Http

/-- A request: method, target, headers in order, and body.  The target is a path with a query
string, perhaps behind a scheme and a host. -/
structure Request where
  method : String
  target : String
  headers : List (String × String)
  body : List UInt8
deriving DecidableEq, Repr, Inhabited

/-- The body of an answer.  A notice is a text that is announced as such. -/
inductive Body where
  | empty
  | text (s : String)
  | notice (s : String)
  | json (value : Json)
deriving DecidableEq, Repr, Inhabited

/-- An answer. -/
structure Response where
  status : Nat
  body : Body
deriving DecidableEq, Repr, Inhabited

namespace Request

/-- The text behind the scheme and the two slashes of an absolute target. -/
def afterScheme? : List Char → Option (List Char)
  | ':' :: '/' :: '/' :: rest => some rest
  | c :: rest => if isSchemeChar c then afterScheme? rest else none
  | [] => none
where
  /-- Whether a character may stand in a scheme. -/
  isSchemeChar (c : Char) : Bool := c.isAlphanum || c = '+' || c = '-' || c = '.'

/-- Whether a character ends the part of a target that names the host. -/
def endsHost (c : Char) : Bool :=
  c = '/' || c = '?' || c = '#'

/-- Whether a character ends the path of a target. -/
def endsPath (c : Char) : Bool :=
  c = '?' || c = '#'

/-- The path, without query string and fragment.  A target may name scheme and host in front of
it; a host alone has no path. -/
def path (r : Request) : String :=
  match r.target.toList with
  | '/' :: rest => String.ofList ('/' :: rest.takeWhile (!endsPath ·))
  | ['*'] => "*"
  | target =>
    match afterScheme? target with
    | none => ""
    | some rest =>
      let path := (rest.dropWhile (!endsHost ·)).takeWhile (!endsPath ·)
      if path.isEmpty then "/" else String.ofList path

/-- The first header of a name, in either case. -/
def header? (r : Request) (name : String) : Option String :=
  (r.headers.find? fun h => Text.eqIgnoreAsciiCase h.1 name).map (·.2)

end Request

/-- Whether a header value can be read as text: visible ASCII, blanks and tabs. -/
def isReadable (value : String) : Bool :=
  value.toList.all fun c => (0x20 ≤ c.toNat && c.toNat ≤ 0x7e) || c = '\t'

/-- The text before the first blank and the text after it. -/
def splitBlank? : List Char → Option (List Char × List Char)
  | [] => none
  | c :: rest =>
    if c = ' ' then some ([], rest)
    else (splitBlank? rest).map fun (before, after) => (c :: before, after)

/-- The token of an `authorization` header: what follows the scheme `bearer`, without the white
space around it, if anything is left. -/
def tokenOf? (value : String) : Option String :=
  if !isReadable value then none
  else
    match splitBlank? value.toList with
    | none => none
    | some (scheme, rest) =>
      let token := Text.trimChars rest
      if Text.eqIgnoreAsciiCase (String.ofList scheme) "bearer" && !token.isEmpty then
        some (String.ofList token)
      else none

/-- The bearer token of a request. -/
def Request.bearerToken? (r : Request) : Option String :=
  (r.header? "authorization").bind tokenOf?

/-! ## Bodies -/

/-- Why a body is not read. -/
inductive BodyFault where
  | tooLong
  | unknownLength
deriving DecidableEq, Repr, Inhabited

/-- The fault in words. -/
def BodyFault.message : BodyFault → String
  | .tooLong => "payload reached size limit"
  | .unknownLength => "payload length is unknown"

/-- The answer that reports a fault. -/
def BodyFault.response (fault : BodyFault) : Response :=
  match fault with
  | .tooLong => ⟨413, .notice fault.message⟩
  | .unknownLength => ⟨400, .notice fault.message⟩

/-- The longest body that is read, in bytes. -/
def maxBodyLength : Nat := 256 * 1024

/-- Why the body of a request is not read, if it is not: a length is announced that is no number
or too large, or the body itself is too long. -/
def Request.bodyFault? (r : Request) : Option BodyFault :=
  let announced := (r.header? "content-length").map (Text.boundedNat? (Nat.pow 2 64 - 1))
  if announced = some none then some .unknownLength
  else if (announced.join.any (maxBodyLength < ·)) || maxBodyLength < r.body.length then
    some .tooLong
  else none

end ChatIndex.Http
