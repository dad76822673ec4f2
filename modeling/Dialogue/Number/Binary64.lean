import Dialogue.Number.Powers

/-! # Finite binary64 numbers

A value with a fraction is a binary64 number.  Infinities and NaN never occur: no value can hold
them, and a text that would read as one is refused.  So a number here is a sign, a mantissa and an
exponent, and all its arithmetic is exact arithmetic on naturals followed by one rounding.

* `Binary64` — `± mantissa · 2 ^ exponent`.
* `Binary64.nearest?` — the number nearest to a ratio, a half going to the even mantissa; nothing
  when the ratio is too large.
* `Binary64.ofDecimal?` — the number nearest to `digits · 10 ^ power`.
* `Binary64.ofScaled?` — the same in two roundings, first the digits and then the power: the way
  number texts in data files are read.
* `Binary64.whole?` — the integer that a number is, if it is one.
-/

namespace Dialogue

/-- A finite binary64 number, `± mantissa · 2 ^ exponent`.  Rounding produces mantissas below
`2 ^ 53` and exponents from `-1074` to `971`, and a mantissa below `2 ^ 52` only at `-1074`. -/
structure Binary64 where
  negative : Bool
  mantissa : Nat
  exponent : Int
deriving DecidableEq, Repr

namespace Binary64

/-- Zero, of either sign. -/
def zero (negative : Bool) : Binary64 := ⟨negative, 0, -1074⟩

/-! ## Rounding -/

/-- The quotient rounded to the nearest integer, a half going to the even one. -/
def divNearest (num den : Nat) : Nat :=
  let q := num / den
  let r := num % den
  if 2 * r > den || (2 * r == den && q % 2 == 1) then q + 1 else q

/-- The exponent at which `num / den` has a mantissa of 53 bits, or the least one there is. -/
def exponentFor (num den : Nat) : Int :=
  let low : Int := (num.log2 : Int) - den.log2 - 53
  let fits := num * twoPow (-low).toNat / (den * twoPow low.toNat) < twoPow 53
  max (if fits then low else low + 1) (-1074)

/-- The number nearest to `num / den`, for a positive `den`. -/
def nearest? (negative : Bool) (num den : Nat) : Option Binary64 :=
  if num == 0 then some (zero negative)
  else
    let e := exponentFor num den
    let m := divNearest (num * twoPow (-e).toNat) (den * twoPow e.toNat)
    let (m, e) := if m == twoPow 53 then (twoPow 52, e + 1) else (m, e)
    if e > 971 then none else some ⟨negative, m, e⟩

/-- The number nearest to `num / den * 2 ^ shift`. -/
def nearestShifted? (negative : Bool) (num den : Nat) (shift : Int) : Option Binary64 :=
  nearest? negative (num * twoPow shift.toNat) (den * twoPow (-shift).toNat)

/-- The number nearest to `digits · 10 ^ power`.  Outside the powers that can matter the answer is
known beforehand: nothing above, zero below. -/
def ofDecimal? (negative : Bool) (digits : Nat) (power : Int) : Option Binary64 :=
  if digits == 0 then some (zero negative)
  else if power > 400 then none
  else if power + digits.log2 / 3 + 1 < -330 then some (zero negative)
  else nearest? negative (digits * tenPow power.toNat) (tenPow (-power).toNat)

/-! ## Reading in two roundings -/

/-- `x · y` or `x / y`, rounded. -/
def scale? (x y : Binary64) (divide : Bool) : Option Binary64 :=
  if divide then nearestShifted? x.negative x.mantissa y.mantissa (x.exponent - y.exponent)
  else nearestShifted? x.negative (x.mantissa * y.mantissa) 1 (x.exponent + y.exponent)

/-- The rounded digits, scaled by the rounded power of ten.  Powers of ten end at `10 ^ 308`, so a
smaller power than `-308` is applied in two steps. -/
def ofScaled? (negative : Bool) (digits : Nat) (power : Int) : Option Binary64 := do
  let d ← nearest? negative digits 1
  if digits == 0 then return d
  if power > 308 then none
  else if power ≥ 0 then
    scale? d (← nearest? false (tenPow power.toNat) 1) false
  else if power ≥ -308 then
    scale? d (← nearest? false (tenPow (-power).toNat) 1) true
  else
    let d ← scale? d (← nearest? false (tenPow 308) 1) true
    if power < -616 then return zero negative
    scale? d (← nearest? false (tenPow (-power - 308).toNat) 1) true

/-! ## Whole numbers -/

/-- The integer that the number is, if it is one. -/
def whole? (x : Binary64) : Option Int :=
  let unit := twoPow (-x.exponent).toNat
  if x.mantissa % unit == 0 then
    let n : Int := (x.mantissa / unit * twoPow x.exponent.toNat : Nat)
    some (if x.negative then -n else n)
  else none

/-- The natural number nearest to the magnitude, a half going up. -/
def rounded (x : Binary64) : Nat :=
  let unit := twoPow (-x.exponent).toNat
  (2 * x.mantissa * twoPow x.exponent.toNat + unit) / (2 * unit)

end Binary64

end Dialogue
