/-! # Punycode

A text of any characters written with letters, digits and hyphens.  The ASCII characters come
first, followed by a hyphen if there are any.  After that, numbers of variable length tell how
far to go from each inserted character to the next one, in the order of code points and, for one
code point, of places.

A number has its lowest digit first.  How large its last digit may be depends on a bias that
follows the size of the numbers before it.
-/

namespace ChatIndex.Url.Punycode

/-- The value of a digit: letters of either case from 0, decimal digits from 26. -/
def digit? (c : Char) : Option Nat :=
  if c.isLower then some (c.toNat - 'a'.toNat)
  else if c.isUpper then some (c.toNat - 'A'.toNat)
  else if c.isDigit then some (c.toNat - '0'.toNat + 26)
  else none

/-- The least value of a digit that is not the last one of its number; places are counted from 36
in steps of 36. -/
def threshold (bias place : Nat) : Nat :=
  if place ≤ bias then 1 else if bias + 26 ≤ place then 26 else place - bias

/-- The largest intermediate value. -/
def limit : Nat := 0xffffffff

/-- Adds the number at the front of a text to `sum`, and returns what follows it. -/
def addNumber? (bias place weight sum : Nat) :
    (s : List Char) → Option (Nat × { rest : List Char // rest.length < s.length })
  | [] => none
  | c :: rest =>
    match digit? c with
    | none => none
    | some d =>
      let sum := sum + d * weight
      let t := threshold bias place
      if limit < sum then none
      else if d < t then some (sum, ⟨rest, Nat.lt_succ_self _⟩)
      else if limit < weight * (36 - t) then none
      else
        (addNumber? bias (place + 36) (weight * (36 - t)) sum rest).map fun (sum, rest) =>
          (sum, ⟨rest.1, Nat.lt_succ_of_lt rest.2⟩)

/-- Divides a number by 35 until it is at most 455, and counts the steps. -/
def scaleDown (delta : Nat) : Nat × Nat :=
  if 455 < delta then
    let (delta, steps) := scaleDown (delta / 35)
    (delta, steps + 1)
  else (delta, 0)
termination_by delta
decreasing_by exact Nat.div_lt_self (by omega) (by decide)

/-- The bias after a number, in a text that is now `length` characters long. -/
def adapt (delta length : Nat) (isFirst : Bool) : Nat :=
  let delta := delta / (if isFirst then 700 else 2)
  let (delta, steps) := scaleDown (delta + delta / length)
  36 * steps + 36 * delta / (delta + 38)

/-- Inserts the characters that the numbers in `s` tell of into a text.  The last inserted code
point is `n`, and `place` is where the next one of that number could stand. -/
def insertAll? (bias n place : Nat) (text s : List Char) : Option (List Char) :=
  match s with
  | [] => some text
  | c :: cs =>
    match addNumber? bias 36 1 place (c :: cs) with
    | none => none
    | some (sum, ⟨rest, isShorter⟩) =>
      let length := text.length + 1
      let n := n + sum / length
      let place' := sum % length
      if n < 0xd800 ∨ (0xdfff < n ∧ n < 0x110000) then
        insertAll? (adapt (sum - place) length (place = 0)) n (place' + 1)
          (text.insertIdx place' (Char.ofNat n)) rest
      else none
termination_by s.length
decreasing_by exact isShorter

/-- The text before the last hyphen and the text after it.  Without a hyphen, or with one only at
the front, all is after it. -/
def splitLastHyphen (s : List Char) : List Char × List Char :=
  let before := ((s.reverse.dropWhile (· ≠ '-')).drop 1).reverse
  if before.isEmpty then ([], s) else (before, (s.reverse.takeWhile (· ≠ '-')).reverse)

/-- The text that a text in Punycode is written for. -/
def decode? (s : List Char) : Option (List Char) :=
  let (text, numbers) := splitLastHyphen s
  insertAll? 72 128 0 text numbers

end ChatIndex.Url.Punycode
