/-! # Decimal numbers

Natural numbers written with decimal digits, as settings and header fields give them.
-/

namespace ChatIndex.Text

/-- The number that a list of decimal digits forms; there must be at least one. -/
def natOfDigits? (cs : List Char) : Option Nat :=
  if cs.isEmpty || !cs.all Char.isDigit then none
  else some (cs.foldl (fun n c => n * 10 + (c.toNat - '0'.toNat)) 0)

/-- A number up to a limit: decimal digits, after an optional plus sign. -/
def boundedNat? (limit : Nat) (s : String) : Option Nat :=
  let digits := match s.toList with
    | '+' :: rest => rest
    | cs => cs
  (natOfDigits? digits).filter (· ≤ limit)

end ChatIndex.Text
