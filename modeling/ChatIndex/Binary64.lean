/-! # Binary floating point with 53 significant bits

A finite number is a sign, a significand below `2 ^ 53` and an exponent of two that is at least
`-1074`; where the exponent is larger, the significand has all its 53 bits.  Every operation
works on exact ratios of natural numbers and rounds once, to the nearest number of this form,
an exact half going to the even significand.
-/

namespace ChatIndex

/-- A finite number: `± significand * 2 ^ exponent`. -/
structure Binary64 where
  negative : Bool
  significand : Nat
  exponent : Int
deriving DecidableEq, Repr, Inhabited

namespace Binary64

/-- The number of bits of a significand. -/
def precision : Nat := 53

/-- The least exponent of two. -/
def minExponent : Int := -1074

/-- The largest exponent of two. -/
def maxExponent : Int := 971

/-- Zero, with a sign. -/
def zero (negative : Bool) : Binary64 :=
  ⟨negative, 0, minExponent⟩

/-- The ratio `num / den`, scaled by `2 ^ -e`, as a ratio again. -/
def scaleDown (num den : Nat) (e : Int) : Nat × Nat :=
  if e < 0 then (num * Nat.pow 2 (-e).toNat, den) else (num, den * Nat.pow 2 e.toNat)

/-- The nearest natural number to a ratio; an exact half goes to the even one. -/
def roundToEven (num den : Nat) : Nat :=
  let q := num / den
  let r := num % den
  if 2 * r < den then q
  else if den < 2 * r then q + 1
  else if q % 2 = 0 then q else q + 1

/-- The nearest number to `± num / den`; `none` where it would be too large. -/
def ofRatio? (negative : Bool) (num den : Nat) : Option Binary64 :=
  if num = 0 then some (zero negative)
  else
    -- The ratio of the two powers of two is off by less than a factor of two either way, so the
    -- exponent is the guess or the one above it.
    let guess : Int := (num.log2 : Int) - (den.log2 : Int) - precision
    let fits (e : Int) : Bool :=
      let (n, d) := scaleDown num den e
      n < d * Nat.pow 2 precision
    let e := max minExponent (if fits guess then guess else guess + 1)
    let (n, d) := scaleDown num den e
    let m := roundToEven n d
    -- Rounding up may carry into a bit too many.
    let (m, e) :=
      if m = Nat.pow 2 precision then (Nat.pow 2 (precision - 1), e + 1) else (m, e)
    if maxExponent < e then none else some ⟨negative, m, e⟩

/-- The magnitude as an exact ratio. -/
def toRatio (x : Binary64) : Nat × Nat :=
  if x.exponent < 0 then (x.significand, Nat.pow 2 (-x.exponent).toNat)
  else (x.significand * Nat.pow 2 x.exponent.toNat, 1)

/-- A product, rounded; `none` where it would be too large. -/
def mul? (x y : Binary64) : Option Binary64 :=
  let (a, b) := x.toRatio
  let (c, d) := y.toRatio
  ofRatio? (x.negative != y.negative) (a * c) (b * d)

/-- A quotient, rounded; `none` where it would be too large.  The divisor is not zero. -/
def div? (x y : Binary64) : Option Binary64 :=
  let (a, b) := x.toRatio
  let (c, d) := y.toRatio
  ofRatio? (x.negative != y.negative) (a * d) (b * c)

/-- The nearest number to `10 ^ n`, for `n` up to 308. -/
def powerOfTen (n : Nat) : Binary64 :=
  (ofRatio? false (Nat.pow 10 n) 1).getD (zero false)

/-- The number written `± digits * 10 ^ exponent`, in the two or more roundings of a reader that
first rounds the digits and then scales by a rounded power of ten, in steps of at most 308.
`none` where the number is too large. -/
def ofDecimal? (negative : Bool) (digits : Nat) (exponent : Int) : Option Binary64 :=
  (ofRatio? negative digits 1).bind fun x => scale x exponent
where
  /-- Scales by a power of ten. -/
  scale (x : Binary64) (exponent : Int) : Option Binary64 :=
    if exponent.natAbs ≤ 308 then
      if 0 ≤ exponent then x.mul? (powerOfTen exponent.natAbs)
      else x.div? (powerOfTen exponent.natAbs)
    else if x.significand = 0 then some x
    else if 0 ≤ exponent then none
    else (x.div? (powerOfTen 308)).bind fun y => scale y (exponent + 308)
  termination_by exponent.natAbs

end Binary64

end ChatIndex
