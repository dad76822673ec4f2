import Dialogue.Number.Binary64
import Dialogue.Number.Digits

/-! # Decimal notation

The notation of numbers in speech and in configuration texts: an optional sign, digits with at most
one point anywhere among them, and an optional exponent.  `Decimal.read?` takes the text apart;
`readInteger?` accepts digits and a sign only.

* `Decimal` — sign, digits and power of ten.
* `readInteger?` — an integer between the 64-bit bounds.
* `readNumber?` — an integer if the text is one, otherwise the nearest binary64 number.
-/

namespace Dialogue

/-- `± digits · 10 ^ power`. -/
structure Decimal where
  negative : Bool
  digits : Nat
  power : Int
deriving DecidableEq, Repr

/-- The least 64-bit integer. -/
def int64Min : Int := -9223372036854775808

/-- The greatest 64-bit integer. -/
def int64Max : Int := 9223372036854775807

/-- The greatest 64-bit unsigned integer. -/
def uint64Max : Nat := 18446744073709551615

/-- Splits off a sign: whether it is a minus, and what follows it. -/
def splitSign : List Char → Bool × List Char
  | '-' :: cs => (true, cs)
  | '+' :: cs => (false, cs)
  | cs => (false, cs)

/-- The value of a text that is digits and nothing else. -/
def readDigits? (cs : List Char) : Option Nat :=
  if !cs.isEmpty && cs.all Char.isDigit then some (digitsValue cs) else none

/-- An optional sign and digits. -/
def readSigned? (cs : List Char) : Option Int :=
  let (negative, cs) := splitSign cs
  (readDigits? cs).map fun n => if negative then -(n : Int) else n

/-- An integer text whose value lies between the 64-bit bounds. -/
def readInteger? (cs : List Char) : Option Int :=
  (readSigned? cs).filter fun n => int64Min ≤ n && n ≤ int64Max

/-- The exponent that ends a decimal text: nothing, or `e` and a signed integer. -/
def readExponent? : List Char → Option Int
  | [] => some 0
  | c :: cs => if c == 'e' || c == 'E' then readSigned? cs else none

/-- Takes a decimal text apart.  Digits may stand on either side of the point, and on one side they
have to. -/
def Decimal.read? (cs : List Char) : Option Decimal :=
  let (negative, cs) := splitSign cs
  let whole := cs.takeWhile Char.isDigit
  let cs := cs.dropWhile Char.isDigit
  let (fraction, cs) :=
    match cs with
    | '.' :: cs => (cs.takeWhile Char.isDigit, cs.dropWhile Char.isDigit)
    | _ => ([], cs)
  if whole.isEmpty && fraction.isEmpty then none
  else
    (readExponent? cs).map fun e =>
      ⟨negative, digitsValue (whole ++ fraction), e - fraction.length⟩

/-- A number as read from a text. -/
inductive Numeral where
  | integer (value : Int)
  | fraction (value : Binary64)
deriving DecidableEq, Repr

/-- An integer text gives its integer, any other decimal text the nearest binary64 number.  Texts
whose number is too large for either are refused. -/
def readNumber? (cs : List Char) : Option Numeral :=
  match readInteger? cs with
  | some n => some (.integer n)
  | none => do
    let d ← Decimal.read? cs
    return .fraction (← Binary64.ofDecimal? d.negative d.digits d.power)

end Dialogue
