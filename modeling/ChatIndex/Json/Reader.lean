import ChatIndex.Json
import ChatIndex.Json.Scan

/-! # Reading JSON texts

A scanned text becomes a value under a *shape*.  Where the shape is a record, only the members
it names are read and a repeated one is refused; all others are skipped unread.  Everything that
is read is held to the strict rules: strings are valid Unicode, numbers are finite, and arrays
and objects are nested at most 127 deep.  Free-form data has the shape `any`, in which the last
of several members of one name stays.
-/

namespace ChatIndex.Json

/-! ## Numbers -/

/-- The largest unsigned integer of 64 bits. -/
def maxUnsigned : Nat := Nat.pow 2 64 - 1

/-- Digits gathered from left to right while the number they form fits 64 bits. -/
structure Gathered where
  digits : Nat
  /-- The digits that no longer fitted. -/
  dropped : List Nat

/-- Appends digits to a number as long as the result fits 64 bits. -/
def gather (n : Nat) : List Nat → Gathered
  | [] => ⟨n, []⟩
  | d :: ds => if n * 10 + d ≤ maxUnsigned then gather (n * 10 + d) ds else ⟨n, d :: ds⟩

/-- The number that a list of digits forms. -/
def ofDigits (ds : List Nat) : Nat :=
  ds.foldl (fun n d => n * 10 + d) 0

/-- The number that a text denotes.  Without point and exponent it is an integer if it fits 64
bits; minus zero is a float.  Of a longer number the digits that fit 64 bits are kept: those
left over before the point only count, those after the point are dropped. -/
def NumberText.toNumber? (t : NumberText) : Option Number :=
  let whole := gather 0 t.whole
  let isInteger := t.fraction.isNone && t.exponent.isNone && whole.dropped.isEmpty
  if isInteger && !t.negative then some (.int whole.digits)
  else if isInteger && 0 < whole.digits && whole.digits ≤ Nat.pow 2 63 then
    some (.int (-whole.digits))
  else
    let fraction := t.fraction.getD []
    -- A small digit after the point may still fit where a larger one before it did not.
    let all := gather whole.digits fraction
    let position : Int := whole.dropped.length - (fraction.length - all.dropped.length : Nat)
    let exponent : Int := match t.exponent with
      | none => 0
      | some (true, ds) => -(ofDigits ds)
      | some (false, ds) => ofDigits ds
    (Binary64.ofDecimal? t.negative all.digits (position + exponent)).map .float

/-! ## Strings -/

/-- The value of four hexadecimal digits. -/
def hexQuad? (a b c d : UInt8) : Option Nat := do
  let a ← Scanned.hexDigit? a
  let b ← Scanned.hexDigit? b
  let c ← Scanned.hexDigit? c
  let d ← Scanned.hexDigit? d
  pure (((a * 16 + b) * 16 + c) * 16 + d)

/-- What the letter after a backslash stands for. -/
def shortEscape : UInt8 → UInt8
  | 0x62 => 0x08
  | 0x66 => 0x0c
  | 0x6e => 0x0a
  | 0x72 => 0x0d
  | 0x74 => 0x09
  | b => b

/-- The bytes that a string body stands for.  An escaped code unit of the upper surrogates must
be followed by an escaped one of the lower; neither may stand alone. -/
def unescape? : List UInt8 → Option (List UInt8)
  | [] => some []
  | 0x5c :: 0x75 :: a :: b :: c :: d :: rest =>
    match hexQuad? a b c d, rest with
    | none, _ => none
    | some hi, 0x5c :: 0x75 :: a :: b :: c :: d :: rest' =>
      if hi < 0xd800 ∨ 0xdfff < hi then
        (unescape? (0x5c :: 0x75 :: a :: b :: c :: d :: rest')).map
          (String.utf8EncodeChar (Char.ofNat hi) ++ ·)
      else if 0xdbff < hi then none
      else
        match hexQuad? a b c d with
        | none => none
        | some lo =>
          if lo < 0xdc00 ∨ 0xdfff < lo then none
          else
            let n := 0x10000 + (hi - 0xd800) * 0x400 + (lo - 0xdc00)
            (unescape? rest').map (String.utf8EncodeChar (Char.ofNat n) ++ ·)
    | some n, rest =>
      if 0xd800 ≤ n ∧ n ≤ 0xdfff then none
      else (unescape? rest).map (String.utf8EncodeChar (Char.ofNat n) ++ ·)
  | 0x5c :: e :: rest => (unescape? rest).map (shortEscape e :: ·)
  | b :: rest => (unescape? rest).map (b :: ·)

/-- The text of a string body. -/
def decodeString? (body : List UInt8) : Option String :=
  (unescape? body).bind fun bytes => String.fromUTF8? ⟨bytes.toArray⟩

/-! ## Shapes -/

/-- Whether a field of a record may be left out.  A `nullable` field may be missing from an
object but not from an array; a `defaulted` one from both. -/
inductive Presence where
  | required
  | nullable
  | defaulted
deriving DecidableEq, Repr

/-- What a reader expects of a value. -/
inductive Shape where
  | any
  | record (fields : List (String × Presence × Shape))
  | list (item : Shape)
  | table (item : Shape)
deriving Repr, Inhabited

namespace Shape

/-- The shape of an item of an array: a record may be written as the list of its fields. -/
def item : Shape → Nat → Shape
  | .list shape, _ => shape
  | .record fields, position => ((fields[position]?).map fun f => f.2.2).getD .any
  | _, _ => .any

/-- The shape of a member of an object; `none` for one that is skipped. -/
def member? : Shape → String → Option Shape
  | .record fields, name => (fields.find? fun f => f.1 = name).map fun f => f.2.2
  | .table shape, _ => some shape
  | _, _ => some .any

/-- Whether members of an object must not be repeated. -/
def isRecord : Shape → Bool
  | .record _ => true
  | _ => false

end Shape

/-- The least depth at which nothing may be nested any more, counted down. -/
def maxDepth : Nat := 128

mutual
/-- Reads a scanned value under a shape; `depth` counts down the levels of nesting left. -/
def read? (shape : Shape) (depth : Nat) : Scanned → Option Json
  | .null => some .null
  | .bool b => some (.bool b)
  | .number text => text.toNumber?.map .number
  | .string body => (decodeString? body).map .string
  | .array items => if depth ≤ 1 then none else (readItems? shape (depth - 1) 0 items).map .array
  | .object members =>
    if depth ≤ 1 then none else (readMembers? shape (depth - 1) [] members).map .object

/-- Reads the items of an array from a position on. -/
def readItems? (shape : Shape) (depth : Nat) (position : Nat) :
    List Scanned → Option (List Json)
  | [] => some []
  | item :: items => do
    let value ← read? (shape.item position) depth item
    let values ← readItems? shape depth (position + 1) items
    pure (value :: values)

/-- Reads the members of an object over those read before. -/
def readMembers? (shape : Shape) (depth : Nat) (seen : List (String × Json)) :
    List (List UInt8 × Scanned) → Option (List (String × Json))
  | [] => some seen
  | (body, member) :: members => do
    let name ← decodeString? body
    match shape.member? name with
    | none => readMembers? shape depth seen members
    | some inner =>
      -- Only a record minds a repeated member.
      if shape.isRecord && (Entries.get? seen name).isSome then none
      else do
        let value ← read? inner depth member
        readMembers? shape depth (Entries.insert name value seen) members
end

/-- Reads a text, given as bytes, under a shape. -/
def readAs? (shape : Shape) (bytes : List UInt8) : Option Json :=
  (Scanned.ofText? bytes).bind (read? shape maxDepth)

/-- Reads a text, given as bytes, as free-form data. -/
def parse? (bytes : List UInt8) : Option Json :=
  readAs? .any bytes

/-- The bytes of a text. -/
def bytesOf (s : String) : List UInt8 :=
  s.toUTF8.toList

end ChatIndex.Json
