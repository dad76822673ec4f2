import Dialogue.Number.Binary64
import Dialogue.Number.Digits

/-! # The shortest decimal text of a number

A number is written with the fewest digits that read back to it, the nearest such digits if there is
a choice.  The reals that round to a number form an interval around it; on the grid of decimals with
`n` digits only the two neighbours of the number can be in it, so the first `n` with a hit is the
least.  Seventeen digits always suffice.

* `Binary64.readsBack` — whether a decimal lies in the interval.
* `Binary64.shortest` — digits and power of ten.
* `Binary64.text` — positional from `0.00001` up to below `10 ^ 16` and always with a fraction,
  otherwise one digit before the point and a signed exponent.
* `Binary64.writtenOut` — positional always, and without a fraction if there is none.
-/

namespace Dialogue.Binary64

/-! ## Which digits -/

/-- Compares `a · 10 ^ i` with `b · 2 ^ j`. -/
def compareScaled (a : Nat) (i : Int) (b : Nat) (j : Int) : Ordering :=
  compare (a * tenPow i.toNat * twoPow (-j).toNat) (b * twoPow j.toNat * tenPow (-i).toNat)

/-- Whether `digits · 10 ^ power` is nearer to the magnitude of `x` than to its neighbours.  The
ends of the interval belong to it when the mantissa is even; just above a power of two the neighbour
below is half as far away. -/
def readsBack (x : Binary64) (digits : Nat) (power : Int) : Bool :=
  let narrow := x.mantissa == twoPow 52 && x.exponent != -1074
  let low := compareScaled digits power (4 * x.mantissa - if narrow then 1 else 2) (x.exponent - 2)
  let high := compareScaled digits power (4 * x.mantissa + 2) (x.exponent - 2)
  let even := x.mantissa % 2 == 0
  (low == .gt || (even && low == .eq)) && (high == .lt || (even && high == .eq))

/-- The least power of ten above the magnitude of a number other than zero. -/
def decimalScale (x : Binary64) : Int :=
  let low := ((x.mantissa.log2 : Int) + x.exponent) * 30103 / 100000
  let above (k : Int) : Bool := compareScaled 1 k x.mantissa x.exponent == .gt
  if above low then low else if above (low + 1) then low + 1 else low + 2

/-- The digits that read back on the grid of multiples of `10 ^ power`: the nearer of the two
neighbours, the even one if both are equally near. -/
def onGrid? (x : Binary64) (power : Int) : Option Nat :=
  let num := x.mantissa * twoPow x.exponent.toNat * tenPow (-power).toNat
  let den := twoPow (-x.exponent).toNat * tenPow power.toNat
  let below := num / den
  let nearer := divNearest num den
  let other := if nearer == below then below + 1 else below
  if x.readsBack nearer power then some nearer
  else if x.readsBack other power then some other
  else none

/-- Drops zeros from the end of the digits. -/
def stripZeros : Nat → Nat → Int → Nat × Int
  | 0, d, p => (d, p)
  | n + 1, d, p => if d != 0 && d % 10 == 0 then stripZeros n (d / 10) (p + 1) else (d, p)

/-- The fewest digits that read back, and the power of ten of the last of them. -/
def shortest (x : Binary64) : Nat × Int :=
  let k := x.decimalScale
  let hit := (List.range 17).findSome? fun n =>
    let power := k - (n + 1 : Nat)
    (x.onGrid? power).map (·, power)
  match hit with
  | some (d, p) => stripZeros 18 d p
  | none => (x.mantissa, x.exponent)

/-! ## Their layout -/

/-- The text of a magnitude given by its digits and the power of ten of the last digit. -/
def layout (digits : List Char) (power : Int) : List Char :=
  let lead := power + digits.length - 1
  if -5 ≤ lead && lead < 16 then
    if power ≥ 0 then digits ++ List.replicate power.toNat '0' ++ ['.', '0']
    else if lead ≥ 0 then digits.take (lead.toNat + 1) ++ '.' :: digits.drop (lead.toNat + 1)
    else ['0', '.'] ++ List.replicate (-lead - 1).toNat '0' ++ digits
  else
    let exponent := (if lead < 0 then '-' else '+') :: digitChars lead.natAbs
    match digits with
    | [d] => d :: 'e' :: exponent
    | d :: ds => d :: '.' :: ds ++ 'e' :: exponent
    | [] => []

/-- The number as a data file shows it. -/
def text (x : Binary64) : String :=
  let magnitude :=
    if x.mantissa == 0 then ['0', '.', '0']
    else
      let (d, p) := x.shortest
      layout (digitChars d) p
  String.ofList (if x.negative then '-' :: magnitude else magnitude)

/-- A magnitude without exponent, and without a point if it is whole. -/
def fullLayout (digits : List Char) (power : Int) : List Char :=
  if power ≥ 0 then digits ++ List.replicate power.toNat '0'
  else
    let digits := List.replicate ((-power).toNat + 1 - digits.length) '0' ++ digits
    let whole := digits.length - (-power).toNat
    digits.take whole ++ '.' :: digits.drop whole

/-- The number written out in full. -/
def writtenOut (x : Binary64) : String :=
  let magnitude :=
    if x.mantissa == 0 then ['0']
    else
      let (d, p) := x.shortest
      fullLayout (digitChars d) p
  String.ofList (if x.negative then '-' :: magnitude else magnitude)

end Dialogue.Binary64
