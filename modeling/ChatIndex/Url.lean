import ChatIndex.Url.Host

/-! # URLs

What the settings give as the address of the search engine.  A URL is taken apart as browsers
do: white space around it and line breaks inside it do not count, the well-known schemes take any
number of slashes before their host, and other schemes need exactly two to have one at all.
Anything may follow the port.
-/

namespace ChatIndex

/-- A URL, as far as the service looks into it. -/
structure Url where
  scheme : String
  host : Option String
  port : Option Nat
  path : String
deriving DecidableEq, Repr, Inhabited

namespace Url

/-- The well-known schemes that have a host; `file` is the other one. -/
def isSpecial (scheme : String) : Bool :=
  ["http", "https", "ws", "wss", "ftp"].contains scheme

/-- The text without line breaks and tabs, and without blanks and control characters on either
side. -/
def clean (s : String) : List Char :=
  let isOutside (c : Char) : Bool := c.toNat ≤ 0x20
  let trimmed := ((s.toList.dropWhile isOutside).reverse.dropWhile isOutside).reverse
  trimmed.filter fun c => c ≠ '\t' ∧ c ≠ '\n' ∧ c ≠ '\r'

/-- Whether a character may stand in a scheme after its first one. -/
def isSchemeChar (c : Char) : Bool :=
  c.isAlphanum || c = '+' || c = '-' || c = '.'

/-- The scheme in front of a colon, in lower case, and the text after the colon. -/
def scheme? (cs : List Char) : Option (String × List Char) :=
  match cs with
  | [] => none
  | first :: _ =>
    let name := cs.takeWhile isSchemeChar
    match cs.dropWhile isSchemeChar with
    | ':' :: rest =>
      if first.isAlpha then some (String.ofList (name.map Char.toLower), rest) else none
    | _ => none

/-- Whether a character ends the part of a URL that names user, host and port. -/
def endsAuthority (special : Bool) (c : Char) : Bool :=
  c = '/' || c = '?' || c = '#' || (special && c = '\\')

/-- The text before the last `@`, if there is one, and the text after it. -/
def splitUser (authority : List Char) : Option (List Char) × List Char :=
  if authority.contains '@' then
    (some ((authority.reverse.dropWhile (· ≠ '@')).drop 1).reverse,
      (authority.reverse.takeWhile (· ≠ '@')).reverse)
  else (none, authority)

/-- Whether a user name or a password is given: anything but a lone colon. -/
def namesUser (user : List Char) : Bool :=
  !user.isEmpty && user ≠ [':']

/-- The host in front of the first colon outside brackets, and the rest with the colon. -/
def splitHost (inBrackets : Bool) : List Char → List Char × List Char
  | [] => ([], [])
  | c :: rest =>
    if c = ':' ∧ !inBrackets then ([], c :: rest)
    else
      let inBrackets := if c = '[' then true else if c = ']' then false else inBrackets
      let (host, rest) := splitHost inBrackets rest
      (c :: host, rest)

/-- The port after a colon: decimal digits of a number below `2 ^ 16`, or nothing. -/
def port? : List Char → Except UrlError (Option Nat)
  | [] | [':'] => .ok none
  | ':' :: digits =>
    -- A backslash ends the authority of the well-known schemes only, yet it ends every port.
    let digits := digits.takeWhile (· ≠ '\\')
    if digits.all Char.isDigit then
      match natOfBase? 10 digits with
      | some n => if n < Nat.pow 2 16 then .ok (some n) else .error .invalidPort
      | none => .error .invalidPort
    else .error .invalidPort
  | _ => .error .invalidPort

/-- The path at the front of what follows the host. -/
def pathOf (rest : List Char) : String :=
  let path := rest.takeWhile fun c => c ≠ '?' ∧ c ≠ '#'
  if path.isEmpty then "/" else String.ofList path

/-- A URL from the text after its slashes. -/
def ofAuthority (scheme : String) (special : Bool) (cs : List Char) : Except UrlError Url := do
  let authority := cs.takeWhile fun c => !endsAuthority special c
  let rest := cs.dropWhile fun c => !endsAuthority special c
  let (user?, hostPort) := splitUser authority
  let (host, portPart) := splitHost false hostPort
  -- An empty user in front of nothing but a path is a mistake for a missing host.
  if user? = some [] && hostPort.isEmpty && !rest.isEmpty then
    throw .emptyHost
  if host.isEmpty && (special || user?.any namesUser || !portPart.isEmpty) then
    throw .emptyHost
  let host ← if special then specialHost host else opaqueHost host
  let port ← port? portPart
  pure ⟨scheme, some host, port, pathOf rest⟩

/-- A URL of the scheme `file`, whose host may be missing. -/
def ofFile (cs : List Char) : Except UrlError Url := do
  let isSlash (c : Char) : Bool := c = '/' || c = '\\'
  match cs with
  | a :: b :: rest =>
    if isSlash a && isSlash b then
      let host := rest.takeWhile fun c => !endsAuthority true c
      let path := rest.dropWhile fun c => !endsAuthority true c
      if host.isEmpty || isDriveLetter host then
        pure ⟨"file", none, none, pathOf path⟩
      else
        let host ← specialHost host
        pure ⟨"file", some host, none, pathOf path⟩
    else pure ⟨"file", none, none, pathOf cs⟩
  | _ => pure ⟨"file", none, none, pathOf cs⟩
where
  /-- A letter and a colon or bar. -/
  isDriveLetter : List Char → Bool
    | [a, b] => a.isAlpha && (b = ':' || b = '|')
    | _ => false

/-- Takes a URL apart. -/
def parse (s : String) : Except UrlError Url :=
  match scheme? (clean s) with
  | none => .error .relativeWithoutBase
  | some (scheme, rest) =>
    if scheme = "file" then ofFile rest
    else if isSpecial scheme then
      ofAuthority scheme true (rest.dropWhile fun c => c = '/' || c = '\\')
    else
      match rest with
      | '/' :: '/' :: rest => ofAuthority scheme false rest
      | rest => .ok ⟨scheme, none, none, String.ofList (rest.takeWhile fun c => c ≠ '?' ∧ c ≠ '#')⟩

end Url

end ChatIndex
