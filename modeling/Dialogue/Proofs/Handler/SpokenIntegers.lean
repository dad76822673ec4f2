import Dialogue.Proofs.Handler.SlotNumbers
import Dialogue.Spoken

/-!
# Integers spoken and understood

An integer is spoken in its digits, and one who says these digits is understood to say this integer.
Commas between the digits do not matter, nor do blanks around them, and no binary64 number comes in
between, neither at the ends of the 64-bit range nor inside it.

Where integers are spoken, one might.  A number has two views: the signed 64-bit integer that it is,
if it is one, and the binary64 number nearest to it, which is another number if 53 bits are too few.
A speaker who goes by the views prefers the integer, and speaks a whole binary64 number as one only
if it is less than `2 ^ 63` in size.  This bound is what saves the integers that are too large for
the first view: rounding does not take them below it.

* `CommasPutInto` — a text with commas put into it, wherever and however many.
* `spokenByViews` — how a number is spoken by its two views.
* `two_pow_le_natAbs_of_nearest` — what rounding does to integers beyond the bounds.
* **`integers_are_spoken_and_understood`** — integers survive speaking and hearing.
-/

namespace Dialogue

open Text

/-! ## Integers that are heard -/

/-- The second text is the first one with commas put into it. -/
inductive CommasPutInto : List Char → List Char → Prop
  | nil : CommasPutInto [] []
  | keep (c : Char) {cs ds : List Char} (h : CommasPutInto cs ds) :
      CommasPutInto (c :: cs) (c :: ds)
  | comma {cs ds : List Char} (h : CommasPutInto cs ds) : CommasPutInto cs (',' :: ds)

namespace CommasPutInto

variable {cs ds : List Char}

lemma refl : ∀ cs : List Char, CommasPutInto cs cs
  | [] => .nil
  | c :: cs => .keep c (refl cs)

/-- Without the commas the text is as before. -/
lemma withoutCommas_eq (h : CommasPutInto cs ds) : withoutCommas ds = withoutCommas cs := by
  induction h with
  | nil => rfl
  | keep c h ih =>
      by_cases hc : c = ','
      · rw [hc, withoutCommas_comma, withoutCommas_comma, ih]
      · rw [withoutCommas_cons hc, withoutCommas_cons hc, ih]
  | comma h ih => rw [withoutCommas_comma, ih]

/-- Any text arises in this way from what it is without commas. -/
lemma of_withoutCommas (ds : List Char) : CommasPutInto (withoutCommas ds) ds := by
  induction ds with
  | nil => exact .nil
  | cons c ds ih =>
      by_cases hc : c = ','
      · rw [hc, withoutCommas_comma]
        exact .comma ih
      · rw [withoutCommas_cons hc]
        exact .keep c ih

/-- Nothing but commas is new. -/
lemma mem (h : CommasPutInto cs ds) {c : Char} (hc : c ∈ ds) : c = ',' ∨ c ∈ cs := by
  induction h with
  | nil => exact .inr hc
  | keep d h ih =>
      rcases List.mem_cons.mp hc with rfl | hc
      · exact .inr List.mem_cons_self
      · exact (ih hc).imp id (List.mem_cons_of_mem d)
  | comma h ih =>
      rcases List.mem_cons.mp hc with rfl | hc
      · exact .inl rfl
      · exact ih hc

end CommasPutInto

/-- A number type accepts what is understood as a number once the blanks around it are dropped. -/
lemma InputType.coerce_of_spokenNumber? {t : InputType} (ht : t.domain = .number) {raw : String}
    {v : Json} (h : spokenNumber? (trimBlanks raw) = some v) : t.coerce raw = .ok v := by
  rw [coerce, ht]
  dsimp only
  rw [h]

section Heard

variable {n : ℤ} {said : List Char} (hsaid : CommasPutInto (integerText n).toList said)
include hsaid

/-- An integer that is said with commas has no blanks. -/
lemma solid_of_commasPutInto {c : Char} (hc : c ∈ said) : isBlank c = false := by
  rcases hsaid.mem hc with rfl | hc
  · decide
  · exact (solid_of_mem_integerText hc).1

/-- **An integer that is said with commas** is understood as itself. -/
lemma spokenNumber?_of_commasPutInto (hn : InInt64 n) :
    spokenNumber? (String.ofList said) = some (.int n) := by
  refine spokenNumber?_of_clean hn.1 hn.2 ?_
  rw [String.toList_ofList, ← withoutCommas, hsaid.withoutCommas_eq]
  exact List.filter_eq_self.mpr fun c hc => bne_iff_ne.mpr (ne_comma_of_mem_integerText hc)

end Heard

/-! ## Integers that are spoken -/

/-- The signed 64-bit integer that an integer is, if it is one. -/
def int64? (n : ℤ) : Option ℤ := if InInt64 n then some n else none

/-- The binary64 number that is nearest to an integer. -/
def nearestTo? (n : ℤ) : Option Binary64 := Binary64.nearest? (n < 0) n.natAbs 1

/-- How a number is spoken by its two views: as the signed 64-bit integer, or else as its binary64
number if this is whole and less than `2 ^ 63` in size, or else as it is written. -/
def spokenByViews (integer : Option ℤ) (nearest : Option Binary64) (written : String) : String :=
  match integer, nearest.bind Binary64.whole? with
  | some n, _ => toString n
  | none, some m => if m.natAbs < 2 ^ 63 then toString m else written
  | none, none => written

/-- **An integer beyond the bounds is not rounded to a number between them.** -/
lemma two_pow_le_natAbs_of_nearest {n m : ℤ} (hn : ¬ InInt64 n)
    (h : (nearestTo? n).bind Binary64.whole? = some m) : 2 ^ 63 ≤ m.natAbs := by
  obtain ⟨x, hx, hwhole⟩ := Option.bind_eq_some_iff.mp h
  have hlarge : 2 ^ 63 ≤ n.natAbs := by
    rw [InInt64, int64Min, int64Max] at hn
    omega
  have hne : n.natAbs ≠ 0 := by omega
  have hlog : 63 ≤ n.natAbs.log2 := (Nat.le_log2 hne).mpr hlarge
  have hround := Binary64.pow_log2_le_of_nearest? hne hx
  rw [Binary64.whole?_eq_some_iff.mp hwhole] at hround
  have hsize : (2 : ℚ) ^ 63 ≤ |(m : ℚ)| :=
    (pow_le_pow_right₀ one_le_two hlog).trans hround
  rw [← Int.cast_abs, Int.abs_eq_natAbs] at hsize
  exact_mod_cast hsize

/-- **An integer is spoken by its two views** in its own digits. -/
lemma spokenByViews_int (n : ℤ) : spokenByViews (int64? n) (nearestTo? n) (toString n) =
    toString n := by
  by_cases hn : InInt64 n
  · rw [int64?, if_pos hn, spokenByViews]
  · rw [int64?, if_neg hn]
    unfold spokenByViews
    cases hview : (nearestTo? n).bind Binary64.whole? with
    | none => rfl
    | some m => exact if_neg (Nat.not_lt.mpr (two_pow_le_natAbs_of_nearest hn hview))

/-- A binary64 number is spoken by its two views, of which it has one. -/
lemma spoken_float (x : Binary64) :
    (Json.float x).spoken = spokenByViews none (some x) x.text := by
  show x.spoken = _
  unfold Binary64.spoken spokenByViews
  rw [Option.bind_some]
  cases x.whole? with
  | none => rfl
  | some n =>
      have hbounds : (-int64Max ≤ n && n ≤ int64Max) = true ↔ n.natAbs < 2 ^ 63 := by
        rw [Bool.and_eq_true, decide_eq_true_eq, decide_eq_true_eq, int64Max]
        omega
      simp only [hbounds, integerText_eq_toString]

lemma spoken_int (n : ℤ) : (Json.int n).spoken = toString n := integerText_eq_toString n

/-- **Integers survive speaking and hearing.**  Let commas be put into the usual text of a signed
64-bit integer, and blanks around it.  Every number type accepts what comes of it, and as this
integer; so it does with the text in which the integer is spoken.

And integers of any size are spoken in their usual text.  Numbers are spoken by their two views,
binary64 numbers and integers alike, and still no integer is spoken as another one that it would be
rounded to. -/
theorem integers_are_spoken_and_understood :
    (∀ (t : InputType) (n : ℤ), t.domain = .number → InInt64 n →
      (∀ front said back : List Char, (∀ c ∈ front, isBlank c = true) →
        CommasPutInto (toString n).toList said → (∀ c ∈ back, isBlank c = true) →
        t.coerce (String.ofList (front ++ said ++ back)) = .ok (.int n)) ∧
      t.coerce (Json.int n).spoken = .ok (.int n)) ∧
    (∀ n : ℤ, (Json.int n).spoken = toString n) ∧
    (∀ n : ℤ, (Json.int n).spoken = spokenByViews (int64? n) (nearestTo? n) (toString n)) ∧
    ∀ x : Binary64, (Json.float x).spoken = spokenByViews none (some x) x.text := by
  refine ⟨fun t n ht hn => ?_, spoken_int, fun n => ?_, spoken_float⟩
  · have hheard : ∀ front said back : List Char, (∀ c ∈ front, isBlank c = true) →
        CommasPutInto (toString n).toList said → (∀ c ∈ back, isBlank c = true) →
        t.coerce (String.ofList (front ++ said ++ back)) = .ok (.int n) := by
      intro front said back hfront hsaid hback
      rw [← integerText_eq_toString] at hsaid
      refine InputType.coerce_of_spokenNumber? ht ?_
      rw [trimBlanks_around hfront (fun c hc => solid_of_commasPutInto hsaid hc) hback]
      exact spokenNumber?_of_commasPutInto hsaid hn
    refine ⟨hheard, ?_⟩
    -- what is spoken has nothing put into it
    have hplain := hheard [] _ [] (List.forall_mem_nil _) (.refl _) (List.forall_mem_nil _)
    rwa [List.nil_append, List.append_nil, String.ofList_toList, ← spoken_int] at hplain
  · rw [spoken_int, spokenByViews_int]

/-- The least signed integer is understood, commas and blanks included, and the greatest unsigned
one is spoken as it is, although it would be rounded up. -/
theorem least_integer_is_understood :
    let balance := InputType.number "balance"
    let said := "-9,223,372,036,854,775,808".toList
    balance.domain = .number ∧ InInt64 int64Min ∧
      (∀ c ∈ [' ', '\u00a0'], isBlank c = true) ∧ CommasPutInto (toString int64Min).toList said ∧
      (∀ c ∈ ['\t'], isBlank c = true) ∧
      balance.coerce " \u00a0-9,223,372,036,854,775,808\t" = .ok (.int int64Min) ∧
      balance.coerce (Json.int int64Min).spoken = .ok (.int int64Min) ∧
      (Json.int 18446744073709551615).spoken = "18446744073709551615" ∧
      (nearestTo? 18446744073709551615).bind Binary64.whole? = some 18446744073709551616 := by
  intro balance said
  have hnumber : balance.domain = .number := rfl
  have hbounds : InInt64 int64Min := by decide
  have hfront : ∀ c ∈ [' ', '\u00a0'], isBlank c = true :=
    List.forall_mem_cons.mpr ⟨rfl, List.forall_mem_singleton.mpr rfl⟩
  have hback : ∀ c ∈ ['\t'], isBlank c = true := List.forall_mem_singleton.mpr rfl
  have hsaid : CommasPutInto (toString int64Min).toList said := by
    have hclean : withoutCommas said = (toString int64Min).toList := by
      rw [← integerText_eq_toString]
      decide +kernel
    exact hclean ▸ .of_withoutCommas said
  have hraw : String.ofList ([' ', '\u00a0'] ++ said ++ ['\t']) =
      " \u00a0-9,223,372,036,854,775,808\t" := by
    decide +kernel
  obtain ⟨hheard, hspoken, -⟩ := integers_are_spoken_and_understood
  obtain ⟨hcoerce, hround⟩ := hheard balance int64Min hnumber hbounds
  have hvalue := hcoerce _ said _ hfront hsaid hback
  rw [hraw] at hvalue
  have htext := hspoken 18446744073709551615
  rw [← integerText_eq_toString] at htext
  exact ⟨hnumber, hbounds, hfront, hsaid, hback, hvalue, hround, htext.trans (by decide +kernel),
    by decide +kernel⟩

end Dialogue
