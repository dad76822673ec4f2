import Dialogue.Proofs.Number.Integers
import Dialogue.Proofs.Template.Grammar
import Mathlib.Data.List.Basic

/-!
# The notation of numbers

A decimal text is a sign or none, digits with at most one point among or around them, and an
exponent or none.  The reader finds the parts from left to right; here they are put together, so
that it can be seen which texts are read and as what.  Only one character of a decimal text is at
the same time a mark of punctuation in a sentence, the point, and it stands at the beginning or the
end only if it is the first or the last of all.  What is left without it is a decimal text again:
its digits are the same, but behind a point at the beginning they stood for less.

* `IsSign`, `IsInteger`, `IsExponent`, `IsDecimal` — the notation, with the numbers it stands for.
* `readSigned?_eq_some_iff`, **`read?_eq_some_iff`** — the reader reads this notation.
* `isDecimal_of_isInteger` — an integer is a decimal number, too.
* `IsDecimal.of_point_cons`, `IsDecimal.of_concat_point` — a point at the beginning or the end.
-/

namespace Dialogue

/-! ## The notation -/

/-- A sign, or none, and whether it is a minus. -/
inductive IsSign : List Char → Bool → Prop
  | none : IsSign [] false
  | plus : IsSign ['+'] false
  | minus : IsSign ['-'] true

/-- Nothing but digits. -/
def AreDigits (cs : List Char) : Prop := ∀ c ∈ cs, c.isDigit = true

/-- An integer in digits, and its value. -/
inductive IsInteger : List Char → ℤ → Prop
  | mk {sign digits : List Char} {negative : Bool} (hsign : IsSign sign negative)
      (hdigits : AreDigits digits) (hne : digits ≠ []) :
      IsInteger (sign ++ digits)
        (if negative then -(digitsValue digits : ℤ) else digitsValue digits)

/-- An exponent, or none, and its value. -/
inductive IsExponent : List Char → ℤ → Prop
  | none : IsExponent [] 0
  | some {mark : Char} {cs : List Char} {e : ℤ} (hmark : mark = 'e' ∨ mark = 'E')
      (h : IsInteger cs e) : IsExponent (mark :: cs) e

/-- A decimal text, without or with a point, and its number. -/
inductive IsDecimal : List Char → Decimal → Prop
  | whole {sign digits tail : List Char} {negative : Bool} {e : ℤ} (hsign : IsSign sign negative)
      (hdigits : AreDigits digits) (hne : digits ≠ []) (htail : IsExponent tail e) :
      IsDecimal (sign ++ (digits ++ tail)) ⟨negative, digitsValue digits, e⟩
  | point {sign front back tail : List Char} {negative : Bool} {e : ℤ}
      (hsign : IsSign sign negative) (hfront : AreDigits front) (hback : AreDigits back)
      (hne : front ≠ [] ∨ back ≠ []) (htail : IsExponent tail e) :
      IsDecimal (sign ++ (front ++ '.' :: (back ++ tail)))
        ⟨negative, digitsValue (front ++ back), e - back.length⟩

/-! ## Integers -/

/-- What is split off is a sign. -/
lemma exists_isSign (cs : List Char) :
    ∃ sign, cs = sign ++ (splitSign cs).2 ∧ IsSign sign (splitSign cs).1 := by
  unfold splitSign
  split
  · exact ⟨['-'], rfl, .minus⟩
  · exact ⟨['+'], rfl, .plus⟩
  · exact ⟨[], rfl, .none⟩

/-- No sign is split off where none stands. -/
lemma splitSign_of_ne {c : Char} (cs : List Char) (hminus : c ≠ '-') (hplus : c ≠ '+') :
    splitSign (c :: cs) = (false, c :: cs) := by
  rw [splitSign]
  · rintro ds h
    exact hminus (List.cons.inj h).1
  · rintro ds h
    exact hplus (List.cons.inj h).1

/-- A character that begins the number itself. -/
def StartsNumber (c : Char) : Prop := c.isDigit = true ∨ c = '.'

lemma StartsNumber.ne {c : Char} (h : StartsNumber c) : c ≠ '-' ∧ c ≠ '+' := by
  rcases h with h | rfl
  · exact ⟨ne_of_isDigit h rfl, ne_of_isDigit h rfl⟩
  · decide

/-- A sign in front of a number is split off. -/
lemma splitSign_append {sign : List Char} {negative : Bool} (hsign : IsSign sign negative)
    {c : Char} {cs : List Char} (hc : StartsNumber c) :
    splitSign (sign ++ c :: cs) = (negative, c :: cs) := by
  cases hsign with
  | none => exact splitSign_of_ne cs hc.ne.1 hc.ne.2
  | plus => rfl
  | minus => rfl

lemma readDigits?_eq_some_iff {cs : List Char} {n : ℕ} :
    readDigits? cs = some n ↔ AreDigits cs ∧ cs ≠ [] ∧ n = digitsValue cs := by
  rw [readDigits?]
  split
  · rename_i h
    rw [Bool.and_eq_true, List.all_eq_true] at h
    have hne : cs ≠ [] := by simpa using h.1
    rw [Option.some.injEq]
    exact ⟨fun hn => ⟨h.2, hne, hn.symm⟩, fun hn => hn.2.2.symm⟩
  · rename_i h
    rw [Bool.and_eq_true, List.all_eq_true] at h
    constructor
    · rintro ⟨⟩
    · rintro ⟨hdigits, hne, _⟩
      exact absurd ⟨by simpa using hne, hdigits⟩ h

lemma readSigned?_eq (cs : List Char) :
    readSigned? cs = (readDigits? (splitSign cs).2).map fun n : ℕ =>
      if (splitSign cs).1 then -(n : ℤ) else n := by
  rw [readSigned?]
  obtain ⟨negative, ds⟩ := splitSign cs
  dsimp only
  cases readDigits? ds <;> rfl

/-- **Integers are read.** -/
lemma readSigned?_eq_some_iff {cs : List Char} {n : ℤ} :
    readSigned? cs = some n ↔ IsInteger cs n := by
  rw [readSigned?_eq]
  constructor
  · intro h
    obtain ⟨sign, hcs, hsign⟩ := exists_isSign cs
    obtain ⟨k, hk, rfl⟩ := Option.map_eq_some_iff.mp h
    obtain ⟨hdigits, hne, rfl⟩ := readDigits?_eq_some_iff.mp hk
    have hinteger := IsInteger.mk hsign hdigits hne
    rwa [← hcs] at hinteger
  · rintro ⟨hsign, hdigits, hne⟩
    rename_i sign digits negative
    obtain ⟨c, ds, rfl⟩ := List.exists_cons_of_ne_nil hne
    rw [splitSign_append hsign (.inl (hdigits c List.mem_cons_self)),
      readDigits?_eq_some_iff.mpr ⟨hdigits, hne, rfl⟩]
    rfl

lemma readExponent?_eq_some_iff {cs : List Char} {e : ℤ} :
    readExponent? cs = some e ↔ IsExponent cs e := by
  cases cs with
  | nil =>
      rw [readExponent?, Option.some.injEq]
      constructor
      · rintro rfl
        exact .none
      · rintro ⟨⟩
        rfl
  | cons c cs =>
      rw [readExponent?]
      constructor
      · intro h
        split at h
        · rename_i hmark
          exact .some (by simpa using hmark) (readSigned?_eq_some_iff.mp h)
        · cases h
      · intro h
        cases h with
        | some hmark h => rw [if_pos (by simpa using hmark), readSigned?_eq_some_iff.mpr h]

/-! ## Decimal numbers -/

/-- The digits after a point, and what follows them; no digits if there is no point. -/
def splitFraction (cs : List Char) : List Char × List Char :=
  match cs with
  | '.' :: cs => (cs.takeWhile Char.isDigit, cs.dropWhile Char.isDigit)
  | _ => ([], cs)

lemma read?_eq (cs : List Char) :
    Decimal.read? cs =
      let whole := (splitSign cs).2.takeWhile Char.isDigit
      let fraction := splitFraction ((splitSign cs).2.dropWhile Char.isDigit)
      if whole.isEmpty && fraction.1.isEmpty then none
      else (readExponent? fraction.2).map fun e =>
        ⟨(splitSign cs).1, digitsValue (whole ++ fraction.1), e - fraction.1.length⟩ := rfl

/-- Without a point there are no digits after it. -/
lemma splitFraction_of_ne {cs : List Char} (h : ∀ ds, cs ≠ '.' :: ds) :
    splitFraction cs = ([], cs) := by
  rw [splitFraction]
  exact h

/-- An exponent begins with a letter, if there is one. -/
lemma IsExponent.head? {tail : List Char} {e : ℤ} (h : IsExponent tail e) :
    ∀ c ∈ tail.head?, c = 'e' ∨ c = 'E' := by
  cases h with
  | none => rintro c ⟨⟩
  | some hmark _ =>
      rintro c ⟨⟩
      exact hmark

lemma IsExponent.isDigit_head? {tail : List Char} {e : ℤ} (h : IsExponent tail e) :
    ∀ c ∈ tail.head?, c.isDigit = false := by
  intro c hc
  rcases h.head? c hc with rfl | rfl <;> rfl

lemma IsExponent.splitFraction {tail : List Char} {e : ℤ} (h : IsExponent tail e) :
    splitFraction tail = ([], tail) := by
  refine splitFraction_of_ne ?_
  rintro ds rfl
  rcases h.head? '.' rfl with hc | hc <;> cases hc

/-- The digits after a point are read to the end. -/
lemma splitFraction_point {back tail : List Char} {e : ℤ} (hback : AreDigits back)
    (htail : IsExponent tail e) : splitFraction ('.' :: (back ++ tail)) = (back, tail) := by
  show ((back ++ tail).takeWhile Char.isDigit, (back ++ tail).dropWhile Char.isDigit) = _
  rw [Template.takeWhile_run hback htail.isDigit_head?,
    Template.dropWhile_run hback htail.isDigit_head?]

/-- What is read once the sign has been split off. -/
lemma read?_of_splitSign {cs front rest back tail : List Char} {negative : Bool} {e : ℤ}
    (hsign : splitSign cs = (negative, front ++ rest)) (hfront : AreDigits front)
    (hrest : ∀ c ∈ rest.head?, c.isDigit = false) (hfraction : splitFraction rest = (back, tail))
    (hne : front ≠ [] ∨ back ≠ []) (htail : IsExponent tail e) :
    Decimal.read? cs = some ⟨negative, digitsValue (front ++ back), e - back.length⟩ := by
  have hsome : ¬ (front.isEmpty && back.isEmpty) = true := by
    rw [Bool.and_eq_true, List.isEmpty_iff, List.isEmpty_iff]
    tauto
  rw [read?_eq, hsign]
  dsimp only
  rw [Template.takeWhile_run hfront hrest, Template.dropWhile_run hfront hrest, hfraction]
  dsimp only
  rw [if_neg hsome, readExponent?_eq_some_iff.mpr htail]
  rfl

/-- Behind the sign, a number begins with a digit or a point. -/
lemma IsDecimal.exists_splitSign {cs : List Char} {d : Decimal} (h : IsDecimal cs d) :
    ∃ c rest, StartsNumber c ∧ splitSign cs = (d.negative, c :: rest) := by
  cases h with
  | whole hsign hdigits hne _ =>
      obtain ⟨c, ds, rfl⟩ := List.exists_cons_of_ne_nil hne
      have hc : StartsNumber c := .inl (hdigits c List.mem_cons_self)
      exact ⟨c, _, hc, splitSign_append hsign hc⟩
  | @point _ front _ _ _ _ hsign hfront _ _ _ =>
      cases front with
      | nil => exact ⟨'.', _, .inr rfl, splitSign_append hsign (.inr rfl)⟩
      | cons c ds =>
          have hc : StartsNumber c := .inl (hfront c List.mem_cons_self)
          exact ⟨c, _, hc, splitSign_append hsign hc⟩

/-- **What is in the notation is read.** -/
lemma IsDecimal.read? {cs : List Char} {d : Decimal} (h : IsDecimal cs d) :
    Decimal.read? cs = some d := by
  cases h with
  | @whole sign digits tail negative e hsign hdigits hne htail =>
      obtain ⟨c, ds, rfl⟩ := List.exists_cons_of_ne_nil hne
      have hread := read?_of_splitSign (splitSign_append hsign
        (.inl (hdigits c List.mem_cons_self))) hdigits htail.isDigit_head? htail.splitFraction
        (.inl hne) htail
      simpa using hread
  | @point sign front back tail negative e hsign hfront hback hne htail =>
      refine read?_of_splitSign ?_ hfront ?_ (splitFraction_point hback htail) hne htail
      · cases front with
        | nil => exact splitSign_append hsign (.inr rfl)
        | cons c cs => exact splitSign_append hsign (.inl (hfront c List.mem_cons_self))
      · rintro c ⟨⟩
        rfl

lemma areDigits_takeWhile (cs : List Char) : AreDigits (cs.takeWhile Char.isDigit) :=
  fun _ => List.mem_takeWhile_imp

/-- **What is read is in the notation.** -/
lemma isDecimal_of_read? {cs : List Char} {d : Decimal} (h : Decimal.read? cs = some d) :
    IsDecimal cs d := by
  obtain ⟨sign, hcs, hsign⟩ := exists_isSign cs
  have hsplit := List.takeWhile_append_dropWhile (p := Char.isDigit) (l := (splitSign cs).2)
  have hfront := areDigits_takeWhile (splitSign cs).2
  rw [read?_eq] at h
  dsimp only at h
  generalize (splitSign cs).2.takeWhile Char.isDigit = front at h hsplit hfront
  generalize (splitSign cs).2.dropWhile Char.isDigit = rest at h hsplit
  generalize (splitSign cs).1 = negative at h hsign
  rw [← hsplit] at hcs
  subst hcs
  split at h
  · cases h
  · rename_i hsome
    obtain ⟨e, htail, rfl⟩ := Option.map_eq_some_iff.mp h
    have htail := readExponent?_eq_some_iff.mp htail
    by_cases hpoint : ∃ ds, rest = '.' :: ds
    · obtain ⟨ds, rfl⟩ := hpoint
      have hback : ds.takeWhile Char.isDigit ++ ds.dropWhile Char.isDigit = ds :=
        List.takeWhile_append_dropWhile
      have hne : front ≠ [] ∨ ds.takeWhile Char.isDigit ≠ [] := by
        by_contra hnone
        rw [not_or, not_not, not_not] at hnone
        exact hsome (by rw [hnone.1, splitFraction, hnone.2]; rfl)
      have hdecimal := IsDecimal.point hsign hfront (areDigits_takeWhile ds) hne htail
      rw [splitFraction, hback] at hdecimal
      exact hdecimal
    · have hfraction := splitFraction_of_ne (not_exists.mp hpoint)
      rw [hfraction] at htail hsome ⊢
      have hne : front ≠ [] := by
        rintro rfl
        exact hsome rfl
      have hdecimal := IsDecimal.whole hsign hfront hne htail
      simpa using hdecimal

/-- **The reader reads the notation of decimal numbers.** -/
theorem read?_eq_some_iff {cs : List Char} {d : Decimal} :
    Decimal.read? cs = some d ↔ IsDecimal cs d :=
  ⟨isDecimal_of_read?, IsDecimal.read?⟩

lemma IsDecimal.unique {cs : List Char} {d d' : Decimal} (h : IsDecimal cs d)
    (h' : IsDecimal cs d') : d = d' :=
  Option.some.inj (h.read?.symm.trans h'.read?)

/-! ## Characters -/

/-- A digit, a sign or the letter of an exponent: all that stands in numbers but the point. -/
def StandsInNumber (c : Char) : Prop := c.isDigit = true ∨ c ∈ ['+', '-', 'e', 'E']

lemma not_standsInNumber_point : ¬ StandsInNumber '.' := by
  rintro (h | h) <;> simp at h

lemma IsSign.standsInNumber {sign : List Char} {negative : Bool} (h : IsSign sign negative) :
    ∀ c ∈ sign, StandsInNumber c := by
  cases h <;> simp [StandsInNumber]

lemma AreDigits.standsInNumber {cs : List Char} (h : AreDigits cs) : ∀ c ∈ cs, StandsInNumber c :=
  fun c hc => .inl (h c hc)

lemma IsInteger.standsInNumber {cs : List Char} {n : ℤ} (h : IsInteger cs n) :
    ∀ c ∈ cs, StandsInNumber c := by
  cases h with
  | mk hsign hdigits _ =>
      exact List.forall_mem_append.mpr ⟨hsign.standsInNumber, hdigits.standsInNumber⟩

lemma IsExponent.standsInNumber {tail : List Char} {e : ℤ} (h : IsExponent tail e) :
    ∀ c ∈ tail, StandsInNumber c := by
  cases h with
  | none => exact List.forall_mem_nil _
  | some hmark h =>
      refine List.forall_mem_cons.mpr ⟨?_, h.standsInNumber⟩
      rcases hmark with rfl | rfl <;> simp [StandsInNumber]

/-- **The characters of decimal texts.** -/
lemma IsDecimal.mem {cs : List Char} {d : Decimal} (h : IsDecimal cs d) {c : Char} (hc : c ∈ cs) :
    StandsInNumber c ∨ c = '.' := by
  cases h with
  | whole hsign hdigits _ htail =>
      simp only [List.mem_append] at hc
      rcases hc with hc | hc | hc
      · exact .inl (hsign.standsInNumber c hc)
      · exact .inl (hdigits.standsInNumber c hc)
      · exact .inl (htail.standsInNumber c hc)
  | point hsign hfront hback _ htail =>
      simp only [List.mem_append, List.mem_cons] at hc
      rcases hc with hc | hc | hc | hc | hc
      · exact .inl (hsign.standsInNumber c hc)
      · exact .inl (hfront.standsInNumber c hc)
      · exact .inr hc
      · exact .inl (hback.standsInNumber c hc)
      · exact .inl (htail.standsInNumber c hc)

/-! ## Integers as decimal numbers -/

/-- An integer is a decimal number without a power of ten. -/
lemma isDecimal_of_isInteger {cs : List Char} {n : ℤ} (h : IsInteger cs n) :
    ∃ negative digits, IsDecimal cs ⟨negative, digits, 0⟩ ∧
      n = if negative then -(digits : ℤ) else digits := by
  cases h with
  | @mk sign digits negative hsign hdigits hne =>
      have hdecimal := IsDecimal.whole hsign hdigits hne .none
      rw [List.append_nil] at hdecimal
      exact ⟨negative, digitsValue digits, hdecimal, rfl⟩

/-- An integer with a point behind it is the same decimal number. -/
lemma isDecimal_concat_point {cs : List Char} {n : ℤ} (h : IsInteger cs n) :
    ∃ negative digits, IsDecimal (cs ++ ['.']) ⟨negative, digits, 0⟩ ∧
      n = if negative then -(digits : ℤ) else digits := by
  cases h with
  | @mk sign digits negative hsign hdigits hne =>
      have hdecimal := IsDecimal.point hsign hdigits (List.forall_mem_nil _) (.inl hne) .none
      refine ⟨negative, digitsValue digits, ?_, rfl⟩
      simpa using hdecimal

lemma IsInteger.ne_nil {cs : List Char} {n : ℤ} (h : IsInteger cs n) : cs ≠ [] := by
  cases h with
  | mk _ _ hne => exact List.append_ne_nil_of_right_ne_nil _ hne

/-! ## Points at the ends -/

/-- **A point at the beginning**: without it the digits behind it stand for more. -/
lemma IsDecimal.of_point_cons {cs : List Char} {d : Decimal} (h : IsDecimal ('.' :: cs) d) :
    '.' ∉ cs ∧ ∃ places : ℕ, 0 < places ∧
      IsDecimal cs ⟨d.negative, d.digits, d.power + places⟩ := by
  generalize htext : '.' :: cs = text at h
  cases h with
  | @whole sign digits tail negative e hsign hdigits hne htail =>
      obtain ⟨c, ds, rfl⟩ := List.exists_cons_of_ne_nil hne
      have hc : StandsInNumber c := hdigits.standsInNumber c List.mem_cons_self
      cases hsign with
      | none =>
          obtain ⟨rfl, _⟩ := List.cons.inj htext
          exact absurd hc not_standsInNumber_point
      | plus => cases htext
      | minus => cases htext
  | @point sign front back tail negative e hsign hfront hback hne htail =>
      cases hsign with
      | none =>
          cases front with
          | nil =>
              obtain ⟨_, rfl⟩ := List.cons.inj htext
              have hne : back ≠ [] := by simpa using hne
              refine ⟨fun hmem => ?_, back.length, List.length_pos_iff.mpr hne, ?_⟩
              · rcases List.mem_append.mp hmem with hmem | hmem
                · exact not_standsInNumber_point (hback.standsInNumber _ hmem)
                · exact not_standsInNumber_point (htail.standsInNumber _ hmem)
              · simpa using IsDecimal.whole .none hback hne htail
          | cons c ds =>
              obtain ⟨rfl, _⟩ := List.cons.inj htext
              exact absurd (hfront.standsInNumber _ List.mem_cons_self) not_standsInNumber_point
      | plus => cases htext
      | minus => cases htext

/-- **A point at the end** stands for nothing. -/
lemma IsDecimal.of_concat_point {cs : List Char} {d : Decimal} (h : IsDecimal (cs ++ ['.']) d) :
    '.' ∉ cs ∧ IsDecimal cs d := by
  generalize htext : cs ++ ['.'] = text at h
  have hlast : ∀ front back : List Char, cs ++ ['.'] = front ++ back →
      (∀ c ∈ back, StandsInNumber c) → back = [] := by
    intro front back hsplit hback
    by_contra hne
    have hpoint := congrArg List.getLast? hsplit
    rw [List.getLast?_concat, List.getLast?_append_of_ne_nil _ hne] at hpoint
    exact not_standsInNumber_point (hback '.' (List.mem_of_getLast? hpoint.symm))
  cases h with
  | @whole sign digits tail negative e hsign hdigits hne htail =>
      have hnil := hlast sign (digits ++ tail) htext
        (List.forall_mem_append.mpr ⟨hdigits.standsInNumber, htail.standsInNumber⟩)
      exact absurd (List.append_eq_nil_iff.mp hnil).1 hne
  | @point sign front back tail negative e hsign hfront hback hne htail =>
      have hsplit : cs ++ ['.'] = (sign ++ front ++ ['.']) ++ (back ++ tail) := by
        rw [htext]
        simp
      have hnil := hlast _ (back ++ tail) hsplit
        (List.forall_mem_append.mpr ⟨hback.standsInNumber, htail.standsInNumber⟩)
      obtain ⟨rfl, rfl⟩ := List.append_eq_nil_iff.mp hnil
      rw [hnil, List.append_nil] at hsplit
      obtain rfl := List.append_cancel_right hsplit
      refine ⟨fun hmem => ?_, ?_⟩
      · rcases List.mem_append.mp hmem with hmem | hmem
        · exact not_standsInNumber_point (hsign.standsInNumber _ hmem)
        · exact not_standsInNumber_point (hfront.standsInNumber _ hmem)
      · simpa using IsDecimal.whole hsign hfront (by simpa using hne) htail

end Dialogue
