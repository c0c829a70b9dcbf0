import ChatIndex.Json
import ChatIndex.Binary64.Shortest

/-! # Printing JSON

The compact form: no white space, members in key order, non-ASCII characters as they are.  A
float has its shortest digits, positional from `1e-5` up to below `1e16` and always with a point
there, and otherwise an exponent with its sign.
-/

namespace ChatIndex.Json

/-- `n` zeros. -/
def zeros (n : Nat) : String :=
  String.ofList (List.replicate n '0')

/-- The text of a float. -/
def printFloat (x : Binary64) : String :=
  let sign := if x.negative then "-" else ""
  let d := x.shortest
  let digits := d.digits.repr
  let length := digits.length
  let point : Int := length + d.exponent
  let body :=
    if d.digits = 0 then "0.0"
    else if 0 ≤ d.exponent && point ≤ 16 then digits ++ zeros d.exponent.toNat ++ ".0"
    else if 0 < point && point ≤ 16 then
      (digits.take point.toNat).toString ++ "." ++ (digits.drop point.toNat).toString
    else if -5 < point && point ≤ 0 then "0." ++ zeros (-point).toNat ++ digits
    else
      let exponent := (if 0 < point then "e+" else "e") ++ (point - 1).repr
      if length = 1 then digits ++ exponent
      else (digits.take 1).toString ++ "." ++ (digits.drop 1).toString ++ exponent
  sign ++ body

/-- The text of a number. -/
def Number.print : Number → String
  | .int i => i.repr
  | .float x => printFloat x

/-- Two lower-case hexadecimal digits. -/
def hexPair (n : Nat) : List Char :=
  [Nat.digitChar (n / 16), Nat.digitChar (n % 16)]

/-- A character inside a string: quote, backslash and control characters are escaped. -/
def escapeChar (c : Char) : List Char :=
  match c with
  | '"' => ['\\', '"']
  | '\\' => ['\\', '\\']
  | '\x08' => ['\\', 'b']
  | '\x0c' => ['\\', 'f']
  | '\n' => ['\\', 'n']
  | '\r' => ['\\', 'r']
  | '\t' => ['\\', 't']
  | c => if c.toNat < 0x20 then ['\\', 'u', '0', '0'] ++ hexPair c.toNat else [c]

/-- A text between quotes. -/
def printString (s : String) : String :=
  String.ofList ('"' :: s.toList.flatMap escapeChar ++ ['"'])

mutual
/-- The compact text of a value. -/
def print : Json → String
  | .null => "null"
  | .bool true => "true"
  | .bool false => "false"
  | .number n => n.print
  | .string s => printString s
  | .array items => "[" ++ ",".intercalate (printItems items) ++ "]"
  | .object members => "\x7b" ++ ",".intercalate (printMembers members) ++ "\x7d"

/-- The texts of the items of an array. -/
def printItems : List Json → List String
  | [] => []
  | item :: items => print item :: printItems items

/-- The texts of the members of an object. -/
def printMembers : List (String × Json) → List String
  | [] => []
  | (name, value) :: members => (printString name ++ ":" ++ print value) :: printMembers members
end

end ChatIndex.Json
