/-! # Decimal digits

Naturals and their decimal digits, most significant first and without leading zeros.  Writing and
reading are inverse (`digitsValue_digitChars`), which is what makes a spoken integer come back.

* `digitChars`, `digitsValue` — the two directions.
* `integerText` — an integer with a minus in front if it is negative.
-/

namespace Dialogue

/-- The character of a digit. -/
def digitChar (d : Nat) : Char := Char.ofNat ('0'.toNat + d)

/-- The value of a digit character. -/
def digitValue (c : Char) : Nat := c.toNat - '0'.toNat

/-- The decimal digits of a natural number. -/
def digitChars (n : Nat) : List Char :=
  if n < 10 then [digitChar n] else digitChars (n / 10) ++ [digitChar (n % 10)]

/-- The value of a string of digits. -/
def digitsValue (cs : List Char) : Nat := cs.foldl (fun n c => 10 * n + digitValue c) 0

/-- The text of a natural number. -/
def naturalText (n : Nat) : String := String.ofList (digitChars n)

/-- The text of an integer. -/
def integerText (n : Int) : String :=
  String.ofList (if n < 0 then '-' :: digitChars n.natAbs else digitChars n.natAbs)

theorem digitValue_digitChar {d : Nat} (h : d < 10) : digitValue (digitChar d) = d := by
  have : ∀ d, d < 10 → digitValue (digitChar d) = d := by decide
  exact this d h

theorem digitsValue_concat (cs : List Char) (c : Char) :
    digitsValue (cs ++ [c]) = 10 * digitsValue cs + digitValue c := by
  simp [digitsValue, List.foldl_append]

/-- Reading the digits of a number gives the number. -/
theorem digitsValue_digitChars (n : Nat) : digitsValue (digitChars n) = n := by
  induction n using digitChars.induct with
  | case1 n h =>
    rw [digitChars, if_pos h]
    simp [digitsValue, digitValue_digitChar h]
  | case2 n h ih =>
    rw [digitChars, if_neg h, digitsValue_concat, ih,
      digitValue_digitChar (Nat.mod_lt _ (by decide))]
    omega

end Dialogue
