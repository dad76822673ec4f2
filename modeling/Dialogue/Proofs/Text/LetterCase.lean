import Dialogue.Text.Case
import Dialogue.Proofs.Text.Trimming
import Mathlib.Tactic.IntervalCases

/-!
# Texts up to the case of letters

Two texts are the same up to case if they are the same once the letters `A` to `Z` are written
small.  Almost nothing that is done to an utterance sees the difference: a function of characters
does not if it takes the same value at each of the 26 letters and at its small form, which is a
finite check (`caseBlind_of_capitals`).  What is built from such functions then commutes with
writing letters small: cutting into fields, trimming, folding, looking for words.

* `lowerAscii` — the text with its letters written small; `sameIgnoringCase_iff`.
* `CaseBlind` — a function that does not see case, with the character classes that do not.
* `normalize_lowerAscii`, `hasWord_lowerAscii`, `trimBlanks_lowerAscii`, `lower_lowerAscii` — texts.
-/

namespace Dialogue.Text

/-! ## Letters written small -/

/-- The characters with the letters `A` to `Z` in lower case. -/
def small (cs : List Char) : List Char := cs.map Char.toLower

lemma small_cons (c : Char) (cs : List Char) : small (c :: cs) = c.toLower :: small cs := rfl

lemma small_append (cs ds : List Char) : small (cs ++ ds) = small cs ++ small ds :=
  List.map_append

/-- The text with the letters `A` to `Z` in lower case. -/
def lowerAscii (text : String) : String := String.ofList (small text.toList)

@[simp] lemma toList_lowerAscii (text : String) : (lowerAscii text).toList = small text.toList :=
  String.toList_ofList

@[simp] lemma lowerAscii_ofList (cs : List Char) :
    lowerAscii (String.ofList cs) = String.ofList (small cs) := by
  rw [lowerAscii, String.toList_ofList]

lemma sameIgnoringCase_iff {a b : String} :
    sameIgnoringCase a b = true ↔ lowerAscii a = lowerAscii b := by
  rw [sameIgnoringCase, beq_iff_eq, lowerAscii, lowerAscii, String.ofList_inj]
  rfl

/-! ## Functions that do not see case -/

/-- The function takes the same value at a letter and at its small form. -/
def CaseBlind {β : Type} (f : Char → β) : Prop := ∀ c : Char, f c.toLower = f c

/-- The letters that have a small form. -/
def capitals : List Char := "ABCDEFGHIJKLMNOPQRSTUVWXYZ".toList

/-- A character has a small form, or it stays as it is. -/
lemma mem_capitals_or (c : Char) : c ∈ capitals ∨ c.toLower = c := by
  by_cases h : 65 ≤ c.toNat ∧ c.toNat ≤ 90
  · obtain ⟨hlo, hhi⟩ := h
    rw [← Char.ofNat_toNat c]
    generalize c.toNat = n at hlo hhi
    left
    interval_cases n <;> decide
  · right
    have hval : ¬ (c.val ≥ 'A'.val ∧ c.val ≤ 'Z'.val) := h
    exact dif_neg hval

/-- **Blindness to case is a check of 26 letters.** -/
lemma caseBlind_of_capitals {β : Type} [DecidableEq β] {f : Char → β}
    (h : (capitals.all fun c => decide (f c.toLower = f c)) = true) : CaseBlind f := by
  intro c
  rcases mem_capitals_or c with hc | hc
  · exact of_decide_eq_true (List.all_eq_true.mp h c hc)
  · rw [hc]

lemma CaseBlind.comp_toLower {β : Type} {f : Char → β} (h : CaseBlind f) :
    f ∘ Char.toLower = f := funext h

lemma caseBlind_toLower : CaseBlind Char.toLower := caseBlind_of_capitals (by decide)

lemma caseBlind_isBlank : CaseBlind isBlank := caseBlind_of_capitals (by decide)

lemma caseBlind_isAlphanumeric : CaseBlind isAlphanumeric :=
  caseBlind_of_capitals (by decide)

lemma caseBlind_fold : CaseBlind fold := caseBlind_of_capitals (by decide)

lemma caseBlind_lowerChar : CaseBlind lowerChar := caseBlind_of_capitals (by decide)

/-! ## Lists of characters -/

section Lists

variable {p : Char → Bool} (hp : CaseBlind p) (cs : List Char)

include hp

lemma takeWhile_small : (small cs).takeWhile p = small (cs.takeWhile p) := by
  rw [small, List.takeWhile_map, hp.comp_toLower, small]

lemma dropWhile_small : (small cs).dropWhile p = small (cs.dropWhile p) := by
  rw [small, List.dropWhile_map, hp.comp_toLower, small]

lemma filter_small : (small cs).filter p = small (cs.filter p) := by
  rw [small, List.filter_map, hp.comp_toLower, small]

lemma any_small : (small cs).any p = cs.any p := by
  rw [small, List.any_map, hp.comp_toLower]

/-- Trimming keeps the small forms of what it keeps. -/
lemma trimBoth_small : trimBoth p (small cs) = small (trimBoth p cs) := by
  have hreverse : ∀ ds, (small ds).reverse = small ds.reverse := fun ds => List.map_reverse.symm
  rw [trimBoth_eq, trimBoth_eq, dropWhile_small hp, List.rdropWhile, List.rdropWhile, hreverse,
    dropWhile_small hp, hreverse]

end Lists

/-- Characters of which none has a small form of its own. -/
lemma small_eq_self {cs : List Char} (h : ∀ c ∈ cs, c.toLower = c) : small cs = cs := by
  rw [small, List.map_congr_left h, List.map_id']

@[simp] lemma small_small (cs : List Char) : small (small cs) = small cs := by
  rw [small, small, List.map_map, caseBlind_toLower.comp_toLower]

@[simp] lemma lowerAscii_lowerAscii (text : String) :
    lowerAscii (lowerAscii text) = lowerAscii text := by
  rw [lowerAscii, toList_lowerAscii, small_small, lowerAscii]

/-! ## Texts -/

/-- A text is cut into fields at the same places. -/
lemma fields_small (cs : List Char) : fields (small cs) = (fields cs).map small := by
  induction cs with
  | nil => rfl
  | cons c cs ih =>
      rw [small_cons]
      by_cases hc : isBlank c = true
      · rw [fields_cons_of_blank hc, fields_cons_of_blank (by rwa [caseBlind_isBlank]), ih]
      · have hc : isBlank c = false := by simpa using hc
        have hc' : isBlank c.toLower = false := by rwa [caseBlind_isBlank]
        by_cases hend : ∀ d ds, cs = d :: ds → isBlank d = true
        · have hend' : ∀ d ds, small cs = d :: ds → isBlank d = true := by
            intro d ds hd
            obtain ⟨d', ds', rfl, rfl, rfl⟩ := List.map_eq_cons_iff.mp hd
            rw [caseBlind_isBlank]
            exact hend d' ds' rfl
          rw [fields_cons_of_end hc hend, fields_cons_of_end hc' hend', ih]
          rfl
        · push Not at hend
          obtain ⟨d, ds, rfl, hd⟩ := hend
          have hd : isBlank d = false := by simpa using hd
          have hd' : isBlank d.toLower = false := by rwa [caseBlind_isBlank]
          obtain ⟨w, ws, hws⟩ := List.exists_cons_of_ne_nil (fields_ne_nil_of_solid hd ds)
          rw [fields_cons_of_solid hc hd hws]
          rw [hws] at ih
          exact fields_cons_of_solid hc' hd' ih

lemma unfields_small (ws : List (List Char)) : unfields (ws.map small) = small (unfields ws) := by
  have hspaced : ∀ ws : List (List Char), spaced (ws.map small) = small (spaced ws) := by
    intro ws
    induction ws with
    | nil => rfl
    | cons w ws ih =>
        rw [List.map_cons, spaced_cons, ih, spaced_cons, small_cons, small_append]
        rfl
  cases ws with
  | nil => rfl
  | cons w ws =>
      rw [List.map_cons, unfields_cons, unfields_cons, hspaced, small_append]

/-- **Spacing is the same whatever the case is.** -/
theorem normalize_lowerAscii (text : String) :
    normalize (lowerAscii text) = lowerAscii (normalize text) := by
  rw [normalize, normalize, toList_lowerAscii, fields_small, unfields_small, lowerAscii_ofList]

lemma trimBlanks_lowerAscii (text : String) :
    trimBlanks (lowerAscii text) = lowerAscii (trimBlanks text) := by
  rw [trimBlanks, trimBlanks, toList_lowerAscii, trimBoth_small caseBlind_isBlank,
    lowerAscii_ofList]

lemma hasWord_lowerAscii (text : String) : hasWord (lowerAscii text) = hasWord text := by
  rw [hasWord, hasWord, toList_lowerAscii, any_small caseBlind_isAlphanumeric]

/-! ## Lower case of all alphabets -/

lemma casedNext_small (cs : List Char) : casedNext (small cs) = casedNext cs := by
  have hignored : CaseBlind fun c => within caseIgnorableEnds c.toNat :=
    caseBlind_of_capitals (by decide)
  have hcased : CaseBlind fun c => within casedEnds c.toNat :=
    caseBlind_of_capitals (by decide)
  rw [casedNext, casedNext, dropWhile_small hignored]
  cases cs.dropWhile fun c => within caseIgnorableEnds c.toNat with
  | nil => rfl
  | cons c rest => exact hcased c

lemma lowerAfter_small (before cs : List Char) :
    lowerAfter (small before) (small cs) = lowerAfter before cs := by
  have hsigma : CaseBlind (· == 'Σ') := caseBlind_of_capitals (by decide)
  induction cs generalizing before with
  | nil => rfl
  | cons c cs ih =>
      have hc : (c.toLower == 'Σ') = (c == 'Σ') := hsigma c
      rw [small_cons, lowerAfter, lowerAfter, ← small_cons, ih, casedNext_small, casedNext_small,
        caseBlind_lowerChar, hc]

/-- **Writing ASCII letters small does not change the lower case of a text.** -/
theorem lower_lowerAscii (text : String) : lower (lowerAscii text) = lower text := by
  have h := lowerAfter_small [] text.toList
  rw [lower, lower, toList_lowerAscii]
  exact congrArg String.ofList h

end Dialogue.Text
