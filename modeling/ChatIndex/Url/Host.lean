import ChatIndex.Text.Percent
import ChatIndex.Url.Domain

/-! # Hosts

The host of a URL: a domain, an IPv4 address in any of its spellings, or an IPv6 address between
brackets.  A domain whose last label is a number must be an IPv4 address.  Schemes other than
the well-known ones have opaque hosts, in which only some characters are forbidden.
-/

namespace ChatIndex

/-- Why a text is no URL. -/
inductive UrlError where
  | relativeWithoutBase
  | emptyHost
  | invalidPort
  | invalidIpv4
  | invalidIpv6
  | invalidDomain
  | invalidDomainCharacter
deriving DecidableEq, Repr, Inhabited

/-- The reason in words. -/
def UrlError.message : UrlError → String
  | .relativeWithoutBase => "relative URL without a base"
  | .emptyHost => "empty host"
  | .invalidPort => "invalid port number"
  | .invalidIpv4 => "invalid IPv4 address"
  | .invalidIpv6 => "invalid IPv6 address"
  | .invalidDomain => "invalid international domain name"
  | .invalidDomainCharacter => "invalid domain character"

namespace Url

open Text

/-- The number that digits of a base form; `none` where one is no digit of it. -/
def natOfBase? (base : Nat) (cs : List Char) : Option Nat :=
  cs.foldl (fun n? c => do
    let n ← n?
    let d ← (hexDigitValue? c).filter (· < base)
    pure (n * base + d)) (some 0)

/-! ## IPv4 -/

/-- A part of an IPv4 address: hexadecimal after `0x`, octal after `0`, else decimal. -/
def ipv4Number? : List Char → Option Nat
  | [] => none
  | '0' :: 'x' :: rest | '0' :: 'X' :: rest => natOfBase? 16 rest
  | '0' :: c :: rest => natOfBase? 8 (c :: rest)
  | cs => natOfBase? 10 cs

/-- The labels of a domain, without the empty one after a final dot. -/
def labels (domain : List Char) : List (List Char) :=
  let parts := splitOnChar '.' domain
  if 1 < parts.length ∧ parts.getLast? = some [] then parts.dropLast else parts

/-- Whether the last label of a domain is a number. -/
def endsInNumber (domain : List Char) : Bool :=
  match (labels domain).getLast? with
  | none | some [] => false
  | some label => label.all Char.isDigit || (ipv4Number? label).isSome

/-- Whether the parts of an IPv4 address are numbers in range: one byte each, and the last one
all the bytes that are left. -/
def isIpv4 (domain : List Char) : Bool :=
  let parts := labels domain
  match parts.mapM ipv4Number? with
  | none => false
  | some numbers =>
    parts.length ≤ 4 && numbers.dropLast.all (· ≤ 255) &&
      (numbers.getLast?.getD 0) < Nat.pow 256 (5 - numbers.length)

/-! ## IPv6 -/

/-- Whether a group is one to four hexadecimal digits. -/
def isIpv6Group (cs : List Char) : Bool :=
  1 ≤ cs.length && cs.length ≤ 4 && cs.all fun c => (hexDigitValue? c).isSome

/-- Whether a group is a number from 0 to 255 without leading zeros. -/
def isIpv4Byte (cs : List Char) : Bool :=
  cs.all Char.isDigit && (cs = ['0'] || cs.head? ≠ some '0') && cs ≠ [] && cs.length ≤ 3 &&
    ((natOfBase? 10 cs).any (· ≤ 255))

/-- The number of 16 bit pieces that groups stand for, if they are well formed; the last one may
be an IPv4 address where that is allowed. -/
def ipv6Pieces? (ipv4Allowed : Bool) : List (List Char) → Option Nat
  | [] => some 0
  | [last] =>
    if isIpv6Group last then some 1
    else
      let bytes := splitOnChar '.' last
      if ipv4Allowed && bytes.length = 4 && bytes.all isIpv4Byte then some 2 else none
  | group :: groups =>
    if isIpv6Group group then (ipv6Pieces? ipv4Allowed groups).map (· + 1) else none

/-- The text before the first two colons in a row, and the text after them. -/
def splitCompressed? : List Char → Option (List Char × List Char)
  | ':' :: ':' :: rest => some ([], rest)
  | c :: rest => (splitCompressed? rest).map fun (before, after) => (c :: before, after)
  | [] => none

/-- The groups of a part of an address. -/
def groups (cs : List Char) : List (List Char) :=
  if cs.isEmpty then [] else splitOnChar ':' cs

/-- Whether a text is an IPv6 address: eight pieces, or fewer with one gap. -/
def isIpv6 (cs : List Char) : Bool :=
  match splitCompressed? cs with
  | none => ipv6Pieces? true (groups cs) = some 8
  | some (before, after) =>
    match ipv6Pieces? false (groups before), ipv6Pieces? true (groups after) with
    | some m, some n => m + n ≤ 7
    | _, _ => false

/-! ## Hosts -/

/-- The domain that a host denotes, its percent escapes undone. -/
def domain? (host : List Char) : Except UrlError (List Char) :=
  match (String.fromUTF8? ⟨(percentDecode host).toArray⟩).bind (Domain.ofText? ·.toList) with
  | none => .error .invalidDomain
  | some domain => if domain.isEmpty then .error .emptyHost else .ok domain

/-- The host between brackets, checked as an IPv6 address. -/
def bracketed? : List Char → Option (Except UrlError String)
  | '[' :: rest =>
    some <|
      if rest.getLast? = some ']' && isIpv6 rest.dropLast then .ok (String.ofList ('[' :: rest))
      else .error .invalidIpv6
  | _ => none

/-- The host of a well-known scheme. -/
def specialHost (host : List Char) : Except UrlError String :=
  match bracketed? host with
  | some result => result
  | none => do
    let domain ← domain? host
    if endsInNumber domain && !isIpv4 domain then .error .invalidIpv4
    else .ok (String.ofList domain)

/-- The host of any other scheme. -/
def opaqueHost (host : List Char) : Except UrlError String :=
  match bracketed? host with
  | some result => result
  | none =>
    if host.any fun c => "\x00\t\n\r #/:<>?@[\\]^|".toList.contains c then
      .error .invalidDomainCharacter
    else .ok (String.ofList host)

end Url

end ChatIndex
