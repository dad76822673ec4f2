import Dialogue.Timestamp
import Dialogue.Proofs.Number.Integers

/-!
# Points in time written and read

A point in time is written with all its parts filled up with zeros, and is read part by part.  Two
digits are all that is read of a month, so nothing has to be known about what follows; a year and
the fraction of a second may have more or fewer digits, and end where the next character is no digit.

* `digitsAtFront?_append` — a run of digits at the front of a text.
* `digitsValue_padded`, `length_padded` — zeros in front change the length of a number only.
* `relaxedYear?_yearText`, `nanosAtFront?_nanosText` — the parts whose lengths vary.
* **`read?_text`** — a point in time is read as it was written.
-/

namespace Dialogue

/-! ## Runs of digits -/

/-- A run of digits is read if it is long enough, and either as long as it may be or followed by a
character that is no digit. -/
lemma digitsAtFront?_append {least most : ℕ} {ds rest : List Char}
    (hds : ∀ c ∈ ds, c.isDigit = true) (hleast : least ≤ ds.length) (hmost : ds.length ≤ most)
    (hstop : ds.length = most ∨ ∀ c ∈ rest.head?, c.isDigit = false) :
    digitsAtFront? least most (ds ++ rest) = some (digitsValue ds, rest) := by
  have hnext : (rest.take (most - ds.length)).takeWhile Char.isDigit = [] := by
    rcases hstop with rfl | hnext
    · rw [Nat.sub_self, List.take_zero, List.takeWhile_nil]
    · cases rest with
      | nil => rw [List.take_nil, List.takeWhile_nil]
      | cons c rest =>
          have hc : c.isDigit = false := hnext c rfl
          cases most - ds.length <;> simp [hc]
  have hrun : ((ds ++ rest).take most).takeWhile Char.isDigit = ds := by
    rw [List.take_append, List.take_of_length_le hmost, List.takeWhile_append_of_pos hds, hnext,
      List.append_nil]
  rw [digitsAtFront?, hrun, if_neg (Nat.not_lt.mpr hleast), List.drop_left]

lemma isBlank_of_isDigit {c : Char} (h : c.isDigit = true) : Text.isBlank c = false := by
  have hrange : 48 ≤ c.toNat ∧ c.toNat ≤ 57 := by
    simpa [Char.isDigit, Char.le_def, UInt32.le_iff_toNat_le] using h
  have hall : ∀ n < 58, 48 ≤ n → Text.within Text.blankEnds n = false := by decide
  exact hall c.toNat (Nat.lt_succ_of_le hrange.2) hrange.1

/-- No blanks are passed over in front of digits. -/
lemma skipBlanks_digits {ds : List Char} (hds : ∀ c ∈ ds, c.isDigit = true) (hne : ds ≠ [])
    (rest : List Char) : skipBlanks (ds ++ rest) = ds ++ rest := by
  obtain ⟨c, ds, rfl⟩ := List.exists_cons_of_ne_nil hne
  rw [skipBlanks, List.cons_append, List.dropWhile_cons,
    isBlank_of_isDigit (hds c List.mem_cons_self)]
  rfl

/-! ## Numbers filled up with zeros -/

namespace Timestamp

lemma isDigit_of_mem_padded {width n : ℕ} {c : Char} (h : c ∈ padded width n) :
    c.isDigit = true := by
  rcases List.mem_append.mp h with hzero | hdigit
  · rw [List.eq_of_mem_replicate hzero]
    rfl
  · exact isDigit_of_mem_digitChars hdigit

lemma padded_ne_nil (width n : ℕ) : padded width n ≠ [] :=
  List.append_ne_nil_of_right_ne_nil _ (digitChars_ne_nil n)

/-- **Zeros in front do not count.** -/
lemma digitsValue_padded (width n : ℕ) : digitsValue (padded width n) = n := by
  have hzeros : ∀ k, (List.replicate k '0').foldl (fun n c => 10 * n + digitValue c) 0 = 0 := by
    intro k
    induction k with
    | zero => rfl
    | succ k ih => rw [List.replicate_succ, List.foldl_cons]; exact ih
  rw [padded, digitsValue, List.foldl_append, hzeros]
  exact digitsValue_digitChars n

lemma le_length_padded (width n : ℕ) : width ≤ (padded width n).length := by
  rw [padded, List.length_append, List.length_replicate]
  omega

lemma length_digitChars_le {width n : ℕ} (hwidth : 0 < width) (h : n < tenPow width) :
    (digitChars n).length ≤ width := by
  induction width generalizing n with
  | zero => exact absurd hwidth (Nat.lt_irrefl 0)
  | succ width ih =>
      rw [digitChars]
      split
      · simp
      · rename_i hn
        have hdiv : n / 10 < tenPow width := by
          rw [tenPow_succ] at h
          omega
        have hpos : 0 < width := by
          rcases Nat.eq_zero_or_pos width with rfl | hpos
          · rw [tenPow_zero] at hdiv
            omega
          · exact hpos
        rw [List.length_append, List.length_singleton]
        exact Nat.succ_le_succ (ih hpos hdiv)

/-- A number with few enough digits is filled up to the width. -/
lemma length_padded {width n : ℕ} (hwidth : 0 < width) (h : n < tenPow width) :
    (padded width n).length = width := by
  have hle := length_digitChars_le hwidth h
  rw [padded, List.length_append, List.length_replicate]
  omega

/-- **A padded number is read** if it has as many digits as may be read. -/
lemma digitsAtFront?_padded {least width n : ℕ} (hleast : least ≤ width) (hwidth : 0 < width)
    (h : n < tenPow width) (rest : List Char) :
    digitsAtFront? least width (padded width n ++ rest) = some (n, rest) := by
  have hlength := length_padded hwidth h
  rw [digitsAtFront?_append (fun _ => isDigit_of_mem_padded)
    (Nat.le_trans hleast (Nat.le_of_eq hlength.symm)) (Nat.le_of_eq hlength) (.inl hlength),
    digitsValue_padded]

lemma skipBlanks_padded (width n : ℕ) (rest : List Char) :
    skipBlanks (padded width n ++ rest) = padded width n ++ rest :=
  skipBlanks_digits (fun _ => isDigit_of_mem_padded) (padded_ne_nil width n) rest

/-! ## Parts of varying length -/

/-- A year is read up to the hyphen behind it. -/
lemma relaxedYear?_yearText (year : ℤ) (rest : List Char) :
    relaxedYear? (yearText year ++ '-' :: rest) = some (year, '-' :: rest) := by
  have hdigits : ∀ c ∈ padded 4 year.natAbs, c.isDigit = true := fun _ => isDigit_of_mem_padded
  have hhyphen : ∀ c ∈ ('-' :: rest).head?, c.isDigit = false := by
    rintro c ⟨⟩
    rfl
  have hlong : 1 ≤ (padded 4 year.natAbs).length := by
    have := le_length_padded 4 year.natAbs
    omega
  -- Behind a sign, the digits may be as many as there are.
  have hsigned : digitsAtFront? 1 (padded 4 year.natAbs ++ '-' :: rest).length
      (padded 4 year.natAbs ++ '-' :: rest) = some (year.natAbs, '-' :: rest) := by
    rw [digitsAtFront?_append hdigits hlong (by simp) (.inr hhyphen), digitsValue_padded]
  rw [yearText]
  split
  · rename_i hyear
    have hrange : 0 ≤ year ∧ year ≤ 9999 := by simpa using hyear
    have hplain : digitsAtFront? 1 4 (padded 4 year.natAbs ++ '-' :: rest) =
        some (year.natAbs, '-' :: rest) := by
      refine digitsAtFront?_padded (by decide) (by decide) ?_ _
      have : tenPow 4 = 10000 := rfl
      omega
    obtain ⟨c, ds, hcons⟩ := List.exists_cons_of_ne_nil (padded_ne_nil 4 year.natAbs)
    have hc : c.isDigit = true := hdigits c (hcons ▸ List.mem_cons_self)
    rw [hcons, List.cons_append] at hplain ⊢
    rw [relaxedYear?, hplain]
    · exact congrArg (fun n => some (n, '-' :: rest)) (Int.natAbs_of_nonneg hrange.1)
    · rintro cs hcs
      exact ne_of_isDigit hc rfl (List.cons.inj hcs).1
    · rintro cs hcs
      exact ne_of_isDigit hc rfl (List.cons.inj hcs).1
  · rename_i hyear
    rw [List.cons_append]
    by_cases hneg : year < 0
    · have habs : -(year.natAbs : ℤ) = year := by omega
      rw [if_pos hneg, relaxedYear?, hsigned]
      exact congrArg (fun n => some (n, '-' :: rest)) habs
    · rw [if_neg hneg, relaxedYear?, hsigned]
      exact congrArg (fun n => some (n, '-' :: rest)) (Int.natAbs_of_nonneg (Int.not_lt.mp hneg))

/-- Between one and nine digits of a fraction are read up to the end of the text. -/
lemma nanosAtFront?_padded {width n : ℕ} (hwidth : 0 < width) (hnine : width ≤ 9)
    (h : n < tenPow width) :
    nanosAtFront? ('.' :: (padded width n ++ ['Z'])) = some (n * tenPow (9 - width), ['Z']) := by
  have hlength := length_padded hwidth h
  have hread : digitsAtFront? 1 9 (padded width n ++ ['Z']) = some (n, ['Z']) := by
    have hstop : ∀ c ∈ ['Z'].head?, c.isDigit = false := by
      rintro c ⟨⟩
      rfl
    rw [digitsAtFront?_append (fun _ => isDigit_of_mem_padded)
      (Nat.lt_of_lt_of_eq hwidth hlength.symm) (Nat.le_trans (Nat.le_of_eq hlength) hnine)
      (.inr hstop), digitsValue_padded]
  rw [nanosAtFront?, hread]
  simp [hlength]

/-- **The fraction of a second** is read as it was written. -/
lemma nanosAtFront?_nanosText {nanos : ℕ} (h : nanos < tenPow 9) :
    nanosAtFront? (nanosText nanos ++ ['Z']) = some (nanos, ['Z']) := by
  have hmillis : nanos / tenPow 6 < tenPow 3 := Nat.div_lt_of_lt_mul h
  have hmicros : nanos / tenPow 3 < tenPow 6 := Nat.div_lt_of_lt_mul h
  rw [nanosText]
  split
  · rename_i hzero
    rw [beq_iff_eq.mp hzero]
    rfl
  · split
    · rename_i hmod
      replace hmod : nanos % tenPow 6 = 0 := beq_iff_eq.mp hmod
      rw [List.cons_append, nanosAtFront?_padded (by decide) (by decide) hmillis,
        Nat.div_mul_cancel (Nat.dvd_of_mod_eq_zero hmod)]
    · split
      · rename_i hmod
        replace hmod : nanos % tenPow 3 = 0 := beq_iff_eq.mp hmod
        rw [List.cons_append, nanosAtFront?_padded (by decide) (by decide) hmicros,
          Nat.div_mul_cancel (Nat.dvd_of_mod_eq_zero hmod)]
      · rw [List.cons_append, nanosAtFront?_padded (by decide) (by decide) h, Nat.sub_self,
          tenPow_zero, Nat.mul_one]

/-! ## The whole text -/

lemma daysInMonth_le (year : ℤ) (month : ℕ) : daysInMonth year month ≤ 31 := by
  rw [daysInMonth]
  split
  · split <;> decide
  · split <;> decide

/-- What is written of a point in time, up to the end. -/
lemma toList_text (t : Timestamp) : t.text.toList =
    yearText t.time.year ++ '-' :: (padded 2 t.time.month ++ '-' :: (padded 2 t.time.day ++ 'T' ::
      (padded 2 t.time.hour ++ ':' :: (padded 2 t.time.minute ++ ':' :: (padded 2 t.time.second ++
        (nanosText t.time.nanos ++ ['Z'])))))) := by
  simp [text]

lemma skipBlanks_yearText (year : ℤ) (rest : List Char) :
    skipBlanks (yearText year ++ rest) = yearText year ++ rest := by
  rw [yearText]
  split
  · exact skipBlanks_padded 4 _ rest
  · split <;> rfl

/-- A number of two digits is read, whatever follows it. -/
lemma digitsAtFront?_two {n : ℕ} (h : n < 100) (rest : List Char) :
    digitsAtFront? 1 2 (skipBlanks (padded 2 n ++ rest)) = some (n, rest) := by
  rw [skipBlanks_padded]
  exact digitsAtFront?_padded (by decide) (by decide) h rest

lemma charAtFront?_self {c : Char} (h : Text.isBlank c = false) (rest : List Char) :
    charAtFront? c (skipBlanks (c :: rest)) = some rest := by
  rw [skipBlanks, List.dropWhile_cons, h]
  simp [charAtFront?]

/-- A date and a time of day are read as they were written. -/
lemma clockTimeAtFront?_text (t : Timestamp) :
    clockTimeAtFront? skipBlanks relaxedYear? 1 t.text.toList = some (t.time, ['Z']) := by
  obtain ⟨⟨year, month, day, hour, minute, second, nanos⟩, hvalid⟩ := t
  obtain ⟨hmonth, hday, hhour, hminute, hsecond, hnanos⟩ : month < 100 ∧ day < 100 ∧ hour < 100 ∧
      minute < 100 ∧ second < 100 ∧ nanos < tenPow 9 := by
    have hdays := daysInMonth_le year month
    simp only [ClockTime.isValid, Bool.and_eq_true, decide_eq_true_eq] at hvalid
    omega
  rw [toList_text, clockTimeAtFront?, skipBlanks_yearText]
  simp only [Option.bind_eq_bind, Option.bind_some, relaxedYear?_yearText, digitsAtFront?_two hmonth,
    digitsAtFront?_two hday, digitsAtFront?_two hhour, digitsAtFront?_two hminute,
    digitsAtFront?_two hsecond, nanosAtFront?_nanosText hnanos,
    charAtFront?_self (c := '-') rfl, charAtFront?_self (c := ':') rfl, Option.pure_def]

/-- **A point in time is read as it was written.** -/
theorem read?_text (t : Timestamp) : read? t.text = some t := by
  have hrelaxed : readRelaxed? t.text = some (t.time, 0) := by
    rw [readRelaxed?, clockTimeAtFront?_text]
    rfl
  have hvalid : t.time.isValid = true := t.valid
  rw [read?, hrelaxed]
  simp [hvalid, ofClockTime?, ClockTime.minusMinutes]

end Timestamp

end Dialogue
