import Dialogue.Number.Reading
import Mathlib.Algebra.Order.Field.Power
import Mathlib.Data.Rat.Cast.Order
import Mathlib.Tactic.FieldSimp
import Mathlib.Tactic.Linarith
import Mathlib.Tactic.Positivity
import Mathlib.Tactic.Ring

/-!
# How far rounding goes

A number that is written with a point is rounded to a binary64 number.  How far the two are apart
depends on the size of the number, and at the lower end, where mantissas are short, rounding may
take half of the number away, or double it.  It does not do worse, unless it gives zero; so numbers
that are ten times apart are never rounded to the same one.

* `Binary64.toRat` — the rational number that a binary64 number is.
* **`whole?_eq_some_iff`** — which integer a binary64 number is, if it is one.
* `divNearest_bounds` — a rounded quotient, and the half by which it may be off.
* `pow_log2_le_of_nearest?` — an integer stays above the power of two below it.
* `nearest?_close`, **`ofDecimal?_close`** — a number is rounded to zero or keeps its size, up to a
  factor of two.
* **`toRat_ofDecimal?_of_lt`** — integers below `2 ^ 53` are not rounded.
-/

namespace Dialogue

/-! ## Rational numbers -/

/-- The rational number that the number is. -/
def Binary64.toRat (x : Binary64) : ℚ :=
  (if x.negative then -1 else 1) * (x.mantissa * 2 ^ x.exponent)

namespace Binary64

lemma toRat_zero (negative : Bool) : (zero negative).toRat = 0 := by
  simp [toRat, zero]

end Binary64

/-- The two parts of a power that a fraction holds above and below its bar. -/
lemma pow_toNat_mul_zpow {b : ℚ} (hb : b ≠ 0) (e : ℤ) :
    b ^ (-e).toNat * b ^ e = b ^ e.toNat := by
  rcases le_total 0 e with he | he
  · rw [Int.toNat_of_nonpos (by omega), pow_zero, one_mul, ← zpow_natCast, Int.toNat_of_nonneg he]
  · rw [Int.toNat_of_nonpos he, pow_zero, ← zpow_natCast, Int.toNat_of_nonneg (by omega),
      ← zpow_add₀ hb, neg_add_cancel, zpow_zero]

lemma twoPow_cast (n : ℕ) : (twoPow n : ℚ) = 2 ^ n := by
  rw [twoPow, Nat.pow_eq, Nat.cast_pow, Nat.cast_ofNat]

lemma tenPow_cast (n : ℕ) : (tenPow n : ℚ) = 10 ^ n := by
  rw [tenPow, Nat.pow_eq, Nat.cast_pow, Nat.cast_ofNat]

namespace Binary64

/-! ## Whole numbers -/

/-- What the sign of a number contributes to it. -/
def sign (x : Binary64) : ℤ := if x.negative then -1 else 1

lemma natAbs_sign_mul (x : Binary64) (n : ℕ) : (x.sign * n).natAbs = n := by
  rw [sign]
  split <;> simp

/-- The number as a quotient: the power stands above the bar or below it. -/
lemma toRat_mul_unit (x : Binary64) :
    x.toRat * twoPow (-x.exponent).toNat = x.sign * (x.mantissa * twoPow x.exponent.toNat) := by
  have hsign : (x.sign : ℚ) = if x.negative then -1 else 1 := by
    rw [sign]
    split <;> simp
  have hpower := pow_toNat_mul_zpow (b := 2) two_ne_zero x.exponent
  rw [toRat, twoPow_cast, twoPow_cast, hsign, ← hpower]
  ring

/-- If the number is an integer, what stands below the bar divides the mantissa. -/
lemma unit_dvd_of_toRat_eq {x : Binary64} {n : ℤ} (h : x.toRat = n) :
    twoPow (-x.exponent).toNat ∣ x.mantissa := by
  rcases le_total 0 x.exponent with hexponent | hexponent
  · rw [Int.toNat_of_nonpos (by omega), twoPow_zero]
    exact one_dvd _
  · have hproduct := x.toRat_mul_unit
    rw [h, Int.toNat_of_nonpos hexponent, twoPow_zero, Nat.cast_one, mul_one] at hproduct
    have hinteger : n * (twoPow (-x.exponent).toNat : ℕ) = x.sign * x.mantissa := by
      exact_mod_cast hproduct
    have habs := congrArg Int.natAbs hinteger
    rw [natAbs_sign_mul, Int.natAbs_mul, Int.natAbs_natCast] at habs
    exact ⟨n.natAbs, by rw [← habs, mul_comm]⟩

lemma toRat_of_unit_dvd {x : Binary64} (h : twoPow (-x.exponent).toNat ∣ x.mantissa) :
    x.toRat =
      x.sign * ((x.mantissa / twoPow (-x.exponent).toNat * twoPow x.exponent.toNat : ℕ) : ℚ) := by
  have hunit : (twoPow (-x.exponent).toNat : ℚ) ≠ 0 := by
    rw [twoPow_cast]
    positivity
  have hmantissa : ((x.mantissa / twoPow (-x.exponent).toNat : ℕ) : ℚ) *
      twoPow (-x.exponent).toNat = x.mantissa := by
    exact_mod_cast Nat.div_mul_cancel h
  refine mul_right_cancel₀ hunit ?_
  rw [toRat_mul_unit, ← hmantissa, Nat.cast_mul]
  ring

/-- **The integer that a number is**, if it is one. -/
theorem whole?_eq_some_iff {x : Binary64} {n : ℤ} : x.whole? = some n ↔ x.toRat = n := by
  have hwhole : twoPow (-x.exponent).toNat ∣ x.mantissa → x.whole? = some (x.sign *
      (x.mantissa / twoPow (-x.exponent).toNat * twoPow x.exponent.toNat : ℕ)) := by
    intro h
    rw [whole?, if_pos (by simpa using Nat.mod_eq_zero_of_dvd h), sign]
    split <;> simp
  constructor
  · intro h
    have hdvd : twoPow (-x.exponent).toNat ∣ x.mantissa := by
      rw [whole?] at h
      split at h
      · rename_i hmod
        exact Nat.dvd_of_mod_eq_zero (by simpa using hmod)
      · cases h
    rw [hwhole hdvd] at h
    rw [toRat_of_unit_dvd hdvd, ← Option.some.inj h]
    push_cast
    rfl
  · intro h
    have hdvd := unit_dvd_of_toRat_eq h
    rw [hwhole hdvd, Option.some.injEq]
    refine Int.cast_injective (α := ℚ) ?_
    rw [← h, toRat_of_unit_dvd hdvd]
    push_cast
    rfl

/-! ## Quotients -/

/-- A rounded quotient is off by half at most. -/
lemma divNearest_bounds {num den : ℕ} (hden : 0 < den) :
    2 * num ≤ 2 * (divNearest num den * den) + den ∧
      2 * (divNearest num den * den) ≤ 2 * num + den := by
  have hdiv : num / den * den + num % den = num := Nat.div_add_mod' num den
  have hmod : num % den < den := Nat.mod_lt num hden
  have hup : (num / den + 1) * den = num / den * den + den := Nat.succ_mul _ _
  rw [divNearest]
  split
  · rename_i hhalf
    have hge : den ≤ 2 * (num % den) := by
      simp only [Bool.or_eq_true, decide_eq_true_eq, Bool.and_eq_true, beq_iff_eq] at hhalf
      omega
    rw [hup]
    omega
  · rename_i hhalf
    have hle : 2 * (num % den) ≤ den := by
      simp only [Bool.or_eq_true, decide_eq_true_eq, Bool.and_eq_true, beq_iff_eq] at hhalf
      omega
    omega

/-- A quotient that is not rounded to zero keeps its size, up to a factor of two. -/
lemma divNearest_close {num den : ℕ} (hden : 0 < den) (hne : divNearest num den ≠ 0) :
    divNearest num den * den ≤ 2 * num ∧ 2 * num ≤ 3 * (divNearest num den * den) := by
  have hbounds := @divNearest_bounds num den hden
  have hone : den ≤ divNearest num den * den :=
    Nat.le_mul_of_pos_left _ (Nat.pos_of_ne_zero hne)
  omega

lemma divNearest_one (n : ℕ) : divNearest n 1 = n := by
  simp [divNearest, Nat.mod_one]

/-! ## Rounding -/

/-- The mantissa before it is brought into range. -/
def roundedMantissa (num den : ℕ) : ℕ :=
  divNearest (num * twoPow (-exponentFor num den).toNat) (den * twoPow (exponentFor num den).toNat)

/-- **What rounding gives**: bringing the mantissa into range does not change the number. -/
lemma toRat_of_nearest? {negative : Bool} {num den : ℕ} {x : Binary64} (hnum : num ≠ 0)
    (h : nearest? negative num den = some x) :
    x.toRat = (if negative then -1 else 1) *
      (roundedMantissa num den * 2 ^ exponentFor num den) := by
  rw [nearest?, if_neg (by simpa using hnum)] at h
  dsimp only at h
  rw [roundedMantissa]
  generalize exponentFor num den = e at h ⊢
  generalize divNearest (num * twoPow (-e).toNat) (den * twoPow e.toNat) = n at h ⊢
  by_cases hfull : n = twoPow 53
  · have hcarry : (twoPow 53 : ℚ) * 2 ^ e = twoPow 52 * 2 ^ (e + 1) := by
      rw [twoPow_succ, Nat.cast_mul, Nat.cast_ofNat, zpow_add_one₀ two_ne_zero, mul_assoc,
        mul_comm (2 : ℚ)]
    simp only [hfull, beq_self_eq_true, if_true] at h
    split at h
    · cases h
    · rw [← Option.some.inj h, toRat, hfull, hcarry]
  · simp only [beq_false_of_ne hfull, Bool.false_eq_true, if_false] at h
    split at h
    · cases h
    · rw [← Option.some.inj h, toRat]

/-- The size of a rounded ratio. -/
lemma abs_toRat_of_nearest? {negative : Bool} {num den : ℕ} {x : Binary64} (hnum : num ≠ 0)
    (h : nearest? negative num den = some x) :
    |x.toRat| = roundedMantissa num den * 2 ^ exponentFor num den := by
  have hunit : (0 : ℚ) < 2 ^ exponentFor num den := by positivity
  rw [toRat_of_nearest? hnum h, abs_mul, abs_of_nonneg (mul_nonneg (Nat.cast_nonneg _) hunit.le)]
  split <;> simp

/-- **A ratio is rounded to zero or keeps its size**, up to a factor of two. -/
lemma nearest?_close {negative : Bool} {num den : ℕ} (hden : 0 < den) {x : Binary64}
    (h : nearest? negative num den = some x) (hne : x.toRat ≠ 0) :
    |x.toRat| ≤ 2 * (num / den) ∧ 2 * (num / den : ℚ) ≤ 3 * |x.toRat| := by
  have hnum : num ≠ 0 := by
    rintro rfl
    rw [← Option.some.inj h, toRat_zero] at hne
    exact hne rfl
  have hx := toRat_of_nearest? hnum h
  have hmantissa : roundedMantissa num den ≠ 0 := by
    intro hzero
    rw [hx, hzero] at hne
    simp at hne
  rw [abs_toRat_of_nearest? hnum h]
  rw [roundedMantissa] at hmantissa ⊢
  generalize exponentFor num den = e at *
  have hpos : 0 < den * twoPow e.toNat := Nat.mul_pos hden (Nat.pow_pos (by decide))
  obtain ⟨hle, hge⟩ := divNearest_close hpos hmantissa
  generalize divNearest (num * twoPow (-e).toNat) (den * twoPow e.toNat) = n at hle hge
  -- the bounds hold of fractions that are multiplied by the power below the bar
  have hbelow : (0 : ℚ) < twoPow (-e).toNat := by
    rw [twoPow_cast]
    positivity
  have habove : (twoPow e.toNat : ℚ) = twoPow (-e).toNat * 2 ^ e := by
    rw [twoPow_cast, twoPow_cast, pow_toNat_mul_zpow two_ne_zero]
  have hden' : (0 : ℚ) < den := by exact_mod_cast hden
  have hle' : (n * (den * twoPow e.toNat) : ℚ) ≤ 2 * (num * twoPow (-e).toNat) := by
    exact_mod_cast hle
  have hge' : (2 * (num * twoPow (-e).toNat) : ℚ) ≤ 3 * (n * (den * twoPow e.toNat)) := by
    exact_mod_cast hge
  rw [habove] at hle' hge'
  constructor
  · rw [mul_div_assoc', le_div_iff₀ hden']
    refine le_of_mul_le_mul_right ?_ hbelow
    linarith
  · rw [mul_div_assoc', div_le_iff₀ hden']
    refine le_of_mul_le_mul_right ?_ hbelow
    linarith

/-! ## Rounded integers -/

/-- An exponent that is some bits below the size of a number leaves its mantissa that many bits. -/
lemma twoPow_le_scaled {n : ℕ} (hn : n ≠ 0) (bits : ℕ) {e : ℤ} (he : e = n.log2 - bits) :
    twoPow bits ≤ n * twoPow (-e).toNat / (1 * twoPow e.toNat) := by
  have hpower : 0 < twoPow e.toNat := Nat.pow_pos (by decide)
  rw [one_mul, Nat.le_div_iff_mul_le hpower]
  calc twoPow bits * twoPow e.toNat = 2 ^ (bits + e.toNat) := (Nat.pow_add 2 bits e.toNat).symm
    _ = 2 ^ (n.log2 + (-e).toNat) := by congr 1; omega
    _ = 2 ^ n.log2 * twoPow (-e).toNat := Nat.pow_add 2 n.log2 _
    _ ≤ n * twoPow (-e).toNat := Nat.mul_le_mul_right _ (Nat.log2_self_le hn)

/-- An integer is rounded to 53 bits. -/
lemma exponentFor_one {n : ℕ} (hn : n ≠ 0) : exponentFor n 1 = n.log2 - 52 := by
  have hone : Nat.log2 1 = 0 := by decide
  have hnofit := Nat.not_lt.mpr (twoPow_le_scaled hn 53 (e := n.log2 - 53) rfl)
  simp only [exponentFor, hone, Nat.cast_zero, sub_zero, hnofit, if_false]
  omega

lemma le_divNearest (num den : ℕ) : num / den ≤ divNearest num den := by
  rw [divNearest]
  split
  · exact Nat.le_succ _
  · exact le_rfl

/-- **Rounding an integer does not take it below a power of two** that it has reached. -/
lemma pow_log2_le_of_nearest? {negative : Bool} {n : ℕ} (hn : n ≠ 0) {x : Binary64}
    (h : nearest? negative n 1 = some x) : (2 : ℚ) ^ n.log2 ≤ |x.toRat| := by
  have hexponent := exponentFor_one hn
  have hmantissa : twoPow 52 ≤ roundedMantissa n 1 := by
    rw [roundedMantissa]
    exact (twoPow_le_scaled hn 52 hexponent).trans (le_divNearest _ _)
  have hpower : (2 : ℚ) ^ n.log2 = twoPow 52 * 2 ^ exponentFor n 1 := by
    rw [twoPow_cast, ← zpow_natCast, ← zpow_natCast, ← zpow_add₀ two_ne_zero, hexponent]
    congr 1
    omega
  have hunit : (0 : ℚ) < 2 ^ exponentFor n 1 := by positivity
  rw [abs_toRat_of_nearest? hn h, hpower]
  exact mul_le_mul_of_nonneg_right (by exact_mod_cast hmantissa) hunit.le

/-! ## Decimal numbers -/

/-- **A decimal number is rounded to zero or keeps its size**, up to a factor of two. -/
theorem ofDecimal?_close {negative : Bool} {digits : ℕ} {power : ℤ} {x : Binary64}
    (h : ofDecimal? negative digits power = some x) (hne : x.toRat ≠ 0) :
    |x.toRat| ≤ 2 * (digits * 10 ^ power) ∧ 2 * (digits * 10 ^ power : ℚ) ≤ 3 * |x.toRat| := by
  rw [ofDecimal?] at h
  split at h
  · rw [← Option.some.inj h, toRat_zero] at hne
    exact absurd rfl hne
  · split at h
    · cases h
    · split at h
      · rw [← Option.some.inj h, toRat_zero] at hne
        exact absurd rfl hne
      · have hbelow : (tenPow (-power).toNat : ℚ) ≠ 0 := by
          rw [tenPow_cast]
          positivity
        have hratio : ((digits * tenPow power.toNat : ℕ) / (tenPow (-power).toNat : ℕ) : ℚ) =
            digits * 10 ^ power := by
          rw [div_eq_iff hbelow, Nat.cast_mul, tenPow_cast, tenPow_cast, mul_assoc,
            mul_comm (10 ^ power), pow_toNat_mul_zpow (by norm_num)]
        rw [← hratio]
        exact nearest?_close (Nat.pow_pos (by decide)) h hne

/-- **An integer below `2 ^ 53` is not rounded.** -/
theorem toRat_ofDecimal?_of_lt {negative : Bool} {digits : ℕ} (hlt : digits < 2 ^ 53)
    {x : Binary64} (h : ofDecimal? negative digits 0 = some x) :
    x.toRat = (if negative then -1 else 1) * digits := by
  by_cases hzero : digits = 0
  · subst hzero
    obtain rfl : zero negative = x := by simpa [ofDecimal?] using h
    rw [toRat_zero, Nat.cast_zero, mul_zero]
  · have hnearest : nearest? negative digits 1 = some x := by
      rw [ofDecimal?, if_neg (by simpa using hzero), if_neg (by decide)] at h
      split at h
      · omega
      · simpa using h
    have hlog : digits.log2 < 53 := (Nat.log2_lt hzero).mpr hlt
    have hexponent : exponentFor digits 1 ≤ 0 := by
      rw [exponentFor_one hzero]
      omega
    have hmantissa : roundedMantissa digits 1 = digits * twoPow (-exponentFor digits 1).toNat := by
      rw [roundedMantissa, Int.toNat_of_nonpos hexponent, twoPow_zero, divNearest_one]
    rw [toRat_of_nearest? hzero hnearest, hmantissa, Nat.cast_mul, mul_assoc, twoPow_cast,
      pow_toNat_mul_zpow two_ne_zero, Int.toNat_of_nonpos hexponent, pow_zero, mul_one]

end Binary64

end Dialogue
