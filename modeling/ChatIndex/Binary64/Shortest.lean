import ChatIndex.Binary64

/-! # The shortest decimal that reads back

Among the decimals that round to a given number, the one with the fewest digits; of two of the
same length the nearer, and of two equally near the even one.  The numbers that round to
`m * 2 ^ e` are those within half a unit of its last bit (a quarter below where `m` is the least
significand of its exponent); the ends belong to them iff `m` is even.
-/

namespace ChatIndex.Binary64

/-- A decimal `digits * 10 ^ exponent`. -/
structure Decimal where
  digits : Nat
  exponent : Int
deriving DecidableEq, Repr, Inhabited

/-- The number of decimal digits of a natural number. -/
def countDigits (n : Nat) : Nat :=
  (Nat.toDigits 10 n).length

/-- The decimal without its trailing zeros. -/
def Decimal.strip (x : Decimal) : Decimal :=
  go (countDigits x.digits) x
where
  /-- Drops at most `fuel` zeros. -/
  go : Nat → Decimal → Decimal
    | 0, x => x
    | fuel + 1, x =>
      if x.digits % 10 = 0 && x.digits != 0 then go fuel ⟨x.digits / 10, x.exponent + 1⟩ else x

/-- The interval of ratios that round to a number, over one denominator: its lower end, the
number itself and the upper end. -/
def interval (x : Binary64) : (Nat × Nat × Nat) × Nat :=
  -- In quarters of a unit of the last bit: the number below is half as far away where the
  -- exponent changes.
  let m := x.significand
  let below := if m = Nat.pow 2 (precision - 1) && minExponent < x.exponent then 1 else 2
  let e := x.exponent - 2
  let scale := if e < 0 then 1 else Nat.pow 2 e.toNat
  let den := if e < 0 then Nat.pow 2 (-e).toNat else 1
  (((4 * m - below) * scale, 4 * m * scale, (4 * m + 2) * scale), den)

/-- The decimal of a number on the grid of multiples of `10 ^ k`, if one of the two neighbours of
the number on that grid rounds to it. -/
def onGrid? (x : Binary64) (k : Int) : Option Decimal :=
  let ((low, mid, high), den) := x.interval
  let up := if k < 0 then Nat.pow 10 (-k).toNat else 1
  let unit := if k < 0 then den else den * Nat.pow 10 k.toNat
  let low := low * up
  let mid := mid * up
  let high := high * up
  let inside (c : Nat) : Bool :=
    if x.significand % 2 = 0 then low ≤ c * unit && c * unit ≤ high
    else low < c * unit && c * unit < high
  let c := mid / unit
  let near := mid - c * unit
  let far := (c + 1) * unit - mid
  -- Of two grid points that read back the nearer one counts, of two equally near the even one.
  if inside c && inside (c + 1) then
    if near < far then some ⟨c, k⟩
    else if far < near then some ⟨c + 1, k⟩
    else some ⟨if c % 2 = 0 then c else c + 1, k⟩
  else if inside c then some ⟨c, k⟩
  else if inside (c + 1) then some ⟨c + 1, k⟩
  else none

/-- The position of the leading digit: the `p` with `10 ^ p ≤ |x| < 10 ^ (p + 1)`. -/
def leadingPosition (x : Binary64) : Int :=
  let (num, den) := x.toRatio
  let p : Int := (countDigits num : Int) - (countDigits den : Int)
  let reaches : Bool :=
    if 0 ≤ p then den * Nat.pow 10 p.toNat ≤ num else den ≤ num * Nat.pow 10 (-p).toNat
  if reaches then p else p - 1

/-- The shortest decimal that reads back. -/
def shortest (x : Binary64) : Decimal :=
  if x.significand = 0 then ⟨0, 0⟩
  else
    let p := x.leadingPosition
    -- Seventeen digits always suffice.
    let tries := (List.range 17).findSome? fun (n : Nat) => x.onGrid? (p - (n : Int))
    (tries.getD ⟨0, 0⟩).strip

end ChatIndex.Binary64
