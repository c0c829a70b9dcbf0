/-! # The structure of a JSON text

A text in UTF-8 is first scanned into a tree whose strings and numbers are still as written.
The scan checks the grammar and nothing else: it neither decodes a string nor computes a number,
so a part of a text that nobody reads may hold a number beyond every range or a string that is
not valid Unicode, and may be nested to any depth.
-/

namespace ChatIndex.Json

/-- A number as written: the digits before and after the point and the exponent. -/
structure NumberText where
  negative : Bool
  whole : List Nat
  fraction : Option (List Nat)
  exponent : Option (Bool × List Nat)
deriving Repr, Inhabited

/-- A JSON text whose structure has been checked. -/
inductive Scanned where
  | null
  | bool (value : Bool)
  | number (text : NumberText)
  | string (body : List UInt8)
  | array (items : List Scanned)
  | object (members : List (List UInt8 × Scanned))
deriving Repr, Inhabited

namespace Scanned

/-- Blank, tab, line feed and carriage return. -/
def isSpace (b : UInt8) : Bool :=
  b = 0x20 || b = 0x09 || b = 0x0a || b = 0x0d

/-- Drops the white space in front. -/
def skipSpace (bytes : List UInt8) : List UInt8 :=
  bytes.dropWhile isSpace

/-- The value of a decimal digit. -/
def digit? (b : UInt8) : Option Nat :=
  if 0x30 ≤ b ∧ b ≤ 0x39 then some (b.toNat - 0x30) else none

/-- The value of a hexadecimal digit, of either case. -/
def hexDigit? (b : UInt8) : Option Nat :=
  if 0x30 ≤ b ∧ b ≤ 0x39 then some (b.toNat - 0x30)
  else if 0x41 ≤ b ∧ b ≤ 0x46 then some (b.toNat - 0x37)
  else if 0x61 ≤ b ∧ b ≤ 0x66 then some (b.toNat - 0x57)
  else none

/-- The decimal digits in front, and the rest. -/
def spanDigits : List UInt8 → List Nat × List UInt8
  | [] => ([], [])
  | b :: rest =>
    match digit? b with
    | some d => let (ds, rest) := spanDigits rest; (d :: ds, rest)
    | none => ([], b :: rest)

/-- One digit or more, and the rest. -/
def digits? (bytes : List UInt8) : Option (List Nat × List UInt8) :=
  match spanDigits bytes with
  | ([], _) => none
  | found => some found

/-- The digits before the point: a zero stands alone. -/
def whole? (bytes : List UInt8) : Option (List Nat × List UInt8) :=
  match digits? bytes with
  -- A leading zero with another digit behind it.
  | some (0 :: _ :: _, _) => none
  | found => found

/-- The digits after a point, where one stands in front. -/
def fraction? : List UInt8 → Option (Option (List Nat) × List UInt8)
  | 0x2e :: rest => (digits? rest).map fun (ds, rest) => (some ds, rest)
  | bytes => some (none, bytes)

/-- The sign and digits after an `e`, where one stands in front. -/
def exponent? : List UInt8 → Option (Option (Bool × List Nat) × List UInt8)
  | b :: rest =>
    if b = 0x65 ∨ b = 0x45 then
      let (negative, rest) := match rest with
        | 0x2d :: rest => (true, rest)
        | 0x2b :: rest => (false, rest)
        | rest => (false, rest)
      (digits? rest).map fun (ds, rest) => (some (negative, ds), rest)
    else some (none, b :: rest)
  | [] => some (none, [])

/-- A number, after its sign. -/
def number? (negative : Bool) (bytes : List UInt8) : Option (NumberText × List UInt8) := do
  let (whole, rest) ← whole? bytes
  let (fraction, rest) ← fraction? rest
  let (exponent, rest) ← exponent? rest
  pure (⟨negative, whole, fraction, exponent⟩, rest)

/-- Whether a byte may follow a backslash without digits. -/
def isShortEscape (b : UInt8) : Bool :=
  [0x22, 0x5c, 0x2f, 0x62, 0x66, 0x6e, 0x72, 0x74].contains b

/-- The bytes of a string up to its closing quote, escapes kept as written, and the rest. -/
def string? : List UInt8 → Option (List UInt8 × List UInt8)
  | [] => none
  | 0x22 :: rest => some ([], rest)
  | 0x5c :: 0x75 :: a :: b :: c :: d :: rest =>
    if (hexDigit? a).isSome && (hexDigit? b).isSome && (hexDigit? c).isSome && (hexDigit? d).isSome
    then (string? rest).map fun (body, rest) => (0x5c :: 0x75 :: a :: b :: c :: d :: body, rest)
    else none
  | 0x5c :: e :: rest =>
    if isShortEscape e then (string? rest).map fun (body, rest) => (0x5c :: e :: body, rest)
    else none
  | b :: rest =>
    -- A control character, or a backslash that begins no escape.
    if b < 0x20 ∨ b = 0x5c then none
    else (string? rest).map fun (body, rest) => (b :: body, rest)

/-- The rest after an expected beginning. -/
def dropExact? : List UInt8 → List UInt8 → Option (List UInt8)
  | [], rest => some rest
  | e :: es, b :: rest => if e = b then dropExact? es rest else none
  | _ :: _, [] => none

mutual
/-- A value without white space in front, and the rest. -/
def value? : Nat → List UInt8 → Option (Scanned × List UInt8)
  | 0, _ => none
  | _, [] => none
  | fuel + 1, b :: rest =>
    match b with
    | 0x6e => (dropExact? [0x75, 0x6c, 0x6c] rest).map (.null, ·)
    | 0x74 => (dropExact? [0x72, 0x75, 0x65] rest).map (.bool true, ·)
    | 0x66 => (dropExact? [0x61, 0x6c, 0x73, 0x65] rest).map (.bool false, ·)
    | 0x22 => (string? rest).map fun (body, rest) => (.string body, rest)
    | 0x2d => (number? true rest).map fun (text, rest) => (.number text, rest)
    | 0x5b =>
      match skipSpace rest with
      | 0x5d :: rest => some (.array [], rest)
      | rest => (items? fuel rest).map fun (items, rest) => (.array items, rest)
    | 0x7b =>
      match skipSpace rest with
      | 0x7d :: rest => some (.object [], rest)
      | rest => (members? fuel rest).map fun (members, rest) => (.object members, rest)
    | b => (number? false (b :: rest)).map fun (text, rest) => (.number text, rest)

/-- One item or more up to the closing bracket, and the rest. -/
def items? : Nat → List UInt8 → Option (List Scanned × List UInt8)
  | 0, _ => none
  | fuel + 1, bytes =>
    (value? fuel bytes).bind fun (item, rest) =>
      match skipSpace rest with
      | 0x5d :: rest => some ([item], rest)
      | 0x2c :: rest =>
        (items? fuel (skipSpace rest)).map fun (items, rest) => (item :: items, rest)
      | _ => none

/-- One member or more up to the closing brace, and the rest. -/
def members? : Nat → List UInt8 → Option (List (List UInt8 × Scanned) × List UInt8)
  | 0, _ => none
  | fuel + 1, 0x22 :: rest =>
    (string? rest).bind fun (name, rest) =>
      match skipSpace rest with
      | 0x3a :: rest =>
        (value? fuel (skipSpace rest)).bind fun (value, rest) =>
          match skipSpace rest with
          | 0x7d :: rest => some ([(name, value)], rest)
          | 0x2c :: rest =>
            (members? fuel (skipSpace rest)).map fun (members, rest) =>
              ((name, value) :: members, rest)
          | _ => none
      | _ => none
  | _ + 1, _ => none
end

/-- Scans a whole text: one value with white space around it.  Each step of the scan either
consumes a byte or opens an item or a member, so twice the length bounds the number of nested
steps. -/
def ofText? (bytes : List UInt8) : Option Scanned :=
  match value? (2 * bytes.length + 2) (skipSpace bytes) with
  | some (value, rest) => if (skipSpace rest).isEmpty then some value else none
  | none => none

end Scanned

end ChatIndex.Json
