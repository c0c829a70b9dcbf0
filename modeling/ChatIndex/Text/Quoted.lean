import ChatIndex.Text.Combining

/-! # Quoted text

How a text is shown inside a log field or an error message: between double quotes, with
everything that could not be read off a terminal written as an escape.  An absent text is
`None`, a present one `Some("...")`, and a list is written between brackets.
-/

namespace ChatIndex.Text

/-- Lower-case hexadecimal digits of a number, without leading zeros. -/
def hexDigits (n : Nat) : List Char :=
  Nat.toDigits 16 n

/-- One character between double quotes: the quote and the backslash take a backslash, four
control characters have a letter of their own, and every other character that is combining or
not printable is written as its code point. -/
def quoteChar (c : Char) : List Char :=
  match c with
  | '\x00' => ['\\', '0']
  | '\t' => ['\\', 't']
  | '\r' => ['\\', 'r']
  | '\n' => ['\\', 'n']
  | '\\' => ['\\', '\\']
  | '"' => ['\\', '"']
  | c =>
    if ' ' ≤ c ∧ c ≤ '~' then [c]
    else if isCombining c || !isPrintable c then
      ['\\', 'u', '\x7b'] ++ hexDigits c.toNat ++ ['\x7d']
    else [c]

/-- A text between double quotes. -/
def quote (s : String) : String :=
  String.ofList ('"' :: s.toList.flatMap quoteChar ++ ['"'])

/-- An optional text: `None`, or the quoted text inside `Some( )`. -/
def quoteOption : Option String → String
  | none => "None"
  | some s => "Some(" ++ quote s ++ ")"

/-- An optional number: `None`, or the number inside `Some( )`. -/
def showOption : Option Nat → String
  | none => "None"
  | some n => "Some(" ++ n.repr ++ ")"

/-- A list of quoted texts between brackets. -/
def quoteList (ss : List String) : String :=
  "[" ++ ", ".intercalate (ss.map quote) ++ "]"

end ChatIndex.Text
