import Dialogue.InputType
import Mathlib.Data.Int.Notation
import Mathlib.Tactic.Common

/-!
# Integers written and read

An integer that is written in digits is read as itself, with its sign, as long as it lies within the
64-bit bounds.

* `isDigit_of_mem_digitChars`, `digitChars_ne_nil` — what is written are digits.
* `digitChars_eq_toDigits`, **`integerText_eq_toString`** — they are the usual ones.
* `readSigned?_integerText`, `readInteger?_integerText` — reading is the inverse of writing.
* **`spokenNumber?_integerText`** — an integer that is spoken in digits is understood as itself;
  `spokenNumber?_of_clean` — it may have commas in it, too.
-/

namespace Dialogue

/-! ## Digits -/

lemma isDigit_digitChar {d : ℕ} (h : d < 10) : (digitChar d).isDigit = true := by
  have hall : ∀ d < 10, (digitChar d).isDigit = true := by decide
  exact hall d h

/-- **What is written are digits.** -/
lemma isDigit_of_mem_digitChars {n : ℕ} {c : Char} (h : c ∈ digitChars n) : c.isDigit = true := by
  induction n using digitChars.induct with
  | case1 n hlt =>
      rw [digitChars, if_pos hlt] at h
      exact List.mem_singleton.mp h ▸ isDigit_digitChar hlt
  | case2 n hge ih =>
      rw [digitChars, if_neg hge] at h
      rcases List.mem_append.mp h with h | h
      · exact ih h
      · exact List.mem_singleton.mp h ▸ isDigit_digitChar (Nat.mod_lt _ (by decide))

lemma digitChars_ne_nil (n : ℕ) : digitChars n ≠ [] := by
  rw [digitChars]
  split
  · exact List.cons_ne_nil _ _
  · exact List.append_ne_nil_of_right_ne_nil _ (List.cons_ne_nil _ _)

lemma digitChar_eq {d : ℕ} (h : d < 10) : digitChar d = d.digitChar := by
  have hall : ∀ d < 10, digitChar d = d.digitChar := by decide
  exact hall d h

/-- The digits of a number are those in its decimal representation. -/
lemma digitChars_eq_toDigits (n : ℕ) : digitChars n = Nat.toDigits 10 n := by
  induction n using digitChars.induct with
  | case1 n hlt => rw [digitChars, if_pos hlt, Nat.toDigits_of_lt_base hlt, digitChar_eq hlt]
  | case2 n hge ih =>
      rw [digitChars, if_neg hge, ih, Nat.toDigits_of_base_le (by decide) (Nat.le_of_not_lt hge),
        digitChar_eq (Nat.mod_lt _ (by decide))]

/-- A digit is none of the other characters in the notation of integers. -/
lemma ne_of_isDigit {c d : Char} (h : c.isDigit = true) (hd : d.isDigit = false) : c ≠ d := by
  rintro rfl
  exact Bool.noConfusion (h.symm.trans hd)

lemma readDigits?_digitChars (n : ℕ) : readDigits? (digitChars n) = some n := by
  have hdigits : (digitChars n).all Char.isDigit = true :=
    List.all_eq_true.mpr fun c => isDigit_of_mem_digitChars
  rw [readDigits?, hdigits, digitsValue_digitChars]
  simp [digitChars_ne_nil]

/-! ## Signs -/

/-- Digits are read without a sign. -/
lemma splitSign_of_isDigit {cs : List Char} (h : ∀ c ∈ cs, c.isDigit = true) :
    splitSign cs = (false, cs) := by
  rcases cs with _ | ⟨c, cs⟩
  · rfl
  · have hc := h c List.mem_cons_self
    rw [splitSign]
    · rintro rest hrest
      exact ne_of_isDigit hc rfl (List.cons.inj hrest).1
    · rintro rest hrest
      exact ne_of_isDigit hc rfl (List.cons.inj hrest).1

lemma toList_integerText (n : ℤ) : (integerText n).toList =
    if n < 0 then '-' :: digitChars n.natAbs else digitChars n.natAbs := by
  rw [integerText, String.toList_ofList]

/-- The text of an integer consists of digits, behind a minus if it is negative. -/
lemma mem_integerText {n : ℤ} {c : Char} (h : c ∈ (integerText n).toList) :
    c = '-' ∨ c.isDigit = true := by
  rw [toList_integerText] at h
  split at h
  · rcases List.mem_cons.mp h with h | h
    · exact .inl h
    · exact .inr (isDigit_of_mem_digitChars h)
  · exact .inr (isDigit_of_mem_digitChars h)

lemma ne_comma_of_mem_integerText {n : ℤ} {c : Char} (h : c ∈ (integerText n).toList) :
    c ≠ ',' := by
  rcases mem_integerText h with rfl | hdigit
  · decide
  · exact ne_of_isDigit hdigit rfl

lemma integerText_ne_nil (n : ℤ) : (integerText n).toList ≠ [] := by
  rw [toList_integerText]
  split
  · exact List.cons_ne_nil _ _
  · exact digitChars_ne_nil _

/-- **The text of an integer is the usual one.** -/
theorem integerText_eq_toString (n : ℤ) : integerText n = toString n := by
  have hdigits : ∀ k : ℕ, String.ofList (digitChars k) = k.repr := fun k => by
    rw [digitChars_eq_toDigits, Nat.repr_eq_ofList_toDigits]
  show integerText n = n.repr
  rw [integerText, Int.repr_eq_if]
  by_cases hneg : n < 0
  · have hnat : (-n).toNat = n.natAbs := by omega
    have hminus : String.ofList ('-' :: digitChars n.natAbs) =
        "-" ++ String.ofList (digitChars n.natAbs) :=
      @String.ofList_append ['-'] (digitChars n.natAbs)
    rw [if_pos hneg, if_neg (by omega), hnat, hminus, hdigits]
  · have hnat : n.toNat = n.natAbs := by omega
    rw [if_neg hneg, if_pos (by omega), hnat, hdigits]

/-- **An integer is read as it was written.** -/
lemma readSigned?_integerText (n : ℤ) : readSigned? (integerText n).toList = some n := by
  rw [toList_integerText]
  by_cases hneg : n < 0
  · rw [if_pos hneg, readSigned?]
    simp only [splitSign, readDigits?_digitChars]
    exact congrArg some (by simp only [if_true]; omega)
  · rw [if_neg hneg, readSigned?,
      splitSign_of_isDigit fun c => isDigit_of_mem_digitChars]
    simp only [readDigits?_digitChars]
    exact congrArg some (by simp only [Bool.false_eq_true, if_false]; omega)

section Bounds

variable {n : ℤ} (hmin : int64Min ≤ n) (hmax : n ≤ int64Max)
include hmin hmax

lemma readInteger?_integerText : readInteger? (integerText n).toList = some n := by
  rw [readInteger?, readSigned?_integerText]
  simp [hmin, hmax]

/-- What is an integer in digits without its commas is understood as this integer. -/
lemma spokenNumber?_of_clean {raw : String}
    (hclean : raw.toList.filter (· != ',') = (integerText n).toList) :
    spokenNumber? raw = some (.int n) := by
  rw [spokenNumber?, hclean, readInteger?_integerText hmin hmax]

/-- **An integer that is spoken in digits** is understood as itself, within the 64-bit bounds. -/
theorem spokenNumber?_integerText : spokenNumber? (integerText n) = some (.int n) := by
  refine spokenNumber?_of_clean hmin hmax (List.filter_eq_self.mpr fun c hc => ?_)
  exact bne_iff_ne.mpr (ne_comma_of_mem_integerText hc)

end Bounds

end Dialogue
