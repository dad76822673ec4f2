import Dialogue.Proofs.Number.Decimals
import Dialogue.Proofs.Number.Rounding
import Dialogue.Proofs.Resolution.FinalSlots
import Dialogue.Proofs.Resolution.LetterCase

/-!
# Numbers that are said

Before a captured text is read as a number, the sentence punctuation around it is trimmed off.  Two
of these marks have a meaning in numbers as well.  A comma separates thousands and means nothing to
the number; a point is a decimal point.  So a number may lose a point at its beginning or its end:
`.5` is understood as 5.  Trimming a point at the beginning multiplies the number by a power of ten,
and rounding cannot make up for that unless everything is rounded to zero.  Trimming one at the end
changes how the number is held: an integer is kept exactly that would have been rounded.

* `numberOf?` — the rational number that a text stands for.
* `writtenNumber?`, `spokenNumber?_of_isDecimal` — numbers in figures.
* `withoutCommas_bareText` — what trimming does to them.
* `eq_zero_of_point_cons` — a point at the beginning counts, unless all is zero.
* `numberOf?_bareText_iff` — which numbers survive trimming.
* **`spoken_number_is_kept_iff`** — which numbers are understood as they are said.
-/

namespace Dialogue

open Text

/-! ## Numbers in figures -/

/-- The rational number that a value is. -/
def Json.rational? : Json → Option ℚ
  | .int n => some n
  | .float x => some x.toRat
  | _ => none

/-- The rational number that a text stands for. -/
def numberOf? (text : String) : Option ℚ := (spokenNumber? text).bind Json.rational?

lemma exists_rational?_of_spokenNumber? {text : String} {v : Json}
    (h : spokenNumber? text = some v) : ∃ q, v.rational? = some q := by
  rcases spokenNumber?_eq_some h with ⟨n, rfl⟩ | ⟨x, rfl⟩
  · exact ⟨n, rfl⟩
  · exact ⟨x.toRat, rfl⟩

/-- The characters without the commas. -/
def withoutCommas (cs : List Char) : List Char := cs.filter (· != ',')

lemma withoutCommas_comma (cs : List Char) : withoutCommas (',' :: cs) = withoutCommas cs := rfl

lemma withoutCommas_cons {c : Char} (hc : c ≠ ',') (cs : List Char) :
    withoutCommas (c :: cs) = c :: withoutCommas cs :=
  List.filter_cons_of_pos (by simpa using hc)

lemma withoutCommas_reverse (cs : List Char) :
    withoutCommas cs.reverse = (withoutCommas cs).reverse :=
  List.filter_reverse

/-- The value of a number in figures: an integer if the text is one, else the nearest number. -/
def writtenNumber? (cs : List Char) (d : Decimal) : Option Json :=
  match readInteger? cs with
  | some n => some (.int n)
  | none => (Binary64.ofDecimal? d.negative d.digits d.power).map .float

lemma isInteger_of_readInteger? {cs : List Char} {n : ℤ} (h : readInteger? cs = some n) :
    IsInteger cs n :=
  readSigned?_eq_some_iff.mp (Option.filter_eq_some_iff.mp h).1

/-- No number in figures is the name of an infinity. -/
lemma isUnboundedName_of_isDecimal {cs : List Char} {d : Decimal} (h : IsDecimal cs d) :
    isUnboundedName cs = false := by
  obtain ⟨c, rest, hc, hsplit⟩ := h.exists_splitSign
  have hfirst : c.toLower ≠ 'i' ∧ c.toLower ≠ 'n' := by
    rcases hc with hdigit | rfl
    · rw [toLower_of_isDigit hdigit]
      exact ⟨ne_of_isDigit hdigit rfl, ne_of_isDigit hdigit rfl⟩
    · decide
  refine Bool.eq_false_iff.mpr fun hname => ?_
  simp only [isUnboundedName, hsplit, Bool.or_eq_true, beq_iff_eq, ← String.toList_inj,
    String.toList_ofList, List.map_cons] at hname
  rcases hname with (hname | hname) | hname
  · exact hfirst.1 (List.cons.inj hname).1
  · exact hfirst.1 (List.cons.inj hname).1
  · exact hfirst.2 (List.cons.inj hname).1

/-- **A number in figures** is read as what stands there when the commas are taken out. -/
lemma spokenNumber?_of_isDecimal {text : String} {d : Decimal}
    (h : IsDecimal (withoutCommas text.toList) d) :
    spokenNumber? text = writtenNumber? (withoutCommas text.toList) d := by
  rw [spokenNumber?, ← withoutCommas, writtenNumber?, isUnboundedName_of_isDecimal h,
    read?_eq_some_iff.mpr h]
  rfl

lemma mem_numberWords {word : String} {n : ℕ} (h : numberWord? word = some n) :
    word ∈ numberWords := by
  have hany : numberWords.any (· == word) = true := by
    rw [← List.findIdx?_isSome, ← numberWord?, h]
    rfl
  obtain ⟨word', hword', hsame⟩ := List.any_eq_true.mp hany
  exact eq_of_beq hsame ▸ hword'

/-- What is understood as a number is a number in figures or a number word. -/
lemma isDecimal_or_of_spokenNumber? {text : String} {v : Json} (h : spokenNumber? text = some v) :
    (∃ d, IsDecimal (withoutCommas text.toList) d) ∨ lower text ∈ numberWords := by
  rw [spokenNumber?, ← withoutCommas] at h
  cases hinteger : readInteger? (withoutCommas text.toList) with
  | some n =>
      obtain ⟨negative, digits, hdecimal, _⟩ :=
        isDecimal_of_isInteger (isInteger_of_readInteger? hinteger)
      exact .inl ⟨_, hdecimal⟩
  | none =>
      rw [hinteger] at h
      dsimp only at h
      split at h
      · cases h
      · cases hdecimal : Decimal.read? (withoutCommas text.toList) with
        | some d => exact .inl ⟨d, read?_eq_some_iff.mp hdecimal⟩
        | none =>
            rw [hdecimal] at h
            cases hword : numberWord? (lower text) with
            | none =>
                rw [hword] at h
                cases h
            | some n => exact .inr (mem_numberWords hword)

/-! ## Trimming -/

/-- A mark of sentence punctuation is its own small form. -/
lemma mem_lowerAfter {c : Char} (hc : isSentencePunctuation c = true) {cs : List Char}
    (hmem : c ∈ cs) (before : List Char) : c ∈ lowerAfter before cs := by
  have hsmall : lowerChar c = [c] :=
    of_isSentencePunctuation (p := fun c => lowerChar c = [c]) (by decide) hc
  have hsigma : (c == 'Σ') = false :=
    of_isSentencePunctuation (p := fun c => (c == 'Σ') = false) (by decide) hc
  induction cs generalizing before with
  | nil => cases hmem
  | cons d ds ih =>
      rw [lowerAfter]
      rcases List.mem_cons.mp hmem with rfl | hmem
      · rw [hsigma, hsmall]
        exact List.mem_append_left _ (List.mem_singleton_self c)
      · exact List.mem_append_right _ (ih hmem _)

/-- In number words there is no punctuation. -/
lemma isSentencePunctuation_of_numberWord {text : String} (h : lower text ∈ numberWords) {c : Char}
    (hc : c ∈ text.toList) : isSentencePunctuation c = false := by
  have hwords : ∀ word ∈ numberWords,
      (word.toList.all fun c => !isSentencePunctuation c) = true := by decide
  by_contra hmark
  have hmark : isSentencePunctuation c = true := by simpa using hmark
  have hlower : c ∈ (lower text).toList := by
    rw [lower, String.toList_ofList]
    exact mem_lowerAfter hmark hc []
  have hplain := List.all_eq_true.mp (hwords _ h) c hlower
  rw [hmark] at hplain
  cases hplain

/-- In numbers in figures there is no punctuation but points and commas. -/
lemma isSentencePunctuation_of_standsInNumber {c : Char} (h : StandsInNumber c) :
    isSentencePunctuation c = false := by
  rcases h with hdigit | hmark
  · by_contra hmark
    have hletter := isAlphanumeric_of_isSentencePunctuation (by simpa using hmark)
    exact Bool.noConfusion ((isAlphanumeric_of_isDigit hdigit).symm.trans hletter)
  · have hall : (['+', '-', 'e', 'E'].all fun c => !isSentencePunctuation c) = true := by decide
    simpa using List.all_eq_true.mp hall c hmark

section Trimming

variable {p : Char → Bool} {cs : List Char}

/-- Dropping points and commas comes to dropping points if the commas are taken out. -/
lemma withoutCommas_dropWhile (h : ∀ c ∈ cs, p c = (c == '.' || c == ',')) :
    withoutCommas (cs.dropWhile p) = (withoutCommas cs).dropWhile (· == '.') := by
  induction cs with
  | nil => rfl
  | cons c cs ih =>
      obtain ⟨hc, hcs⟩ := List.forall_mem_cons.mp h
      by_cases hcomma : c = ','
      · subst hcomma
        rw [List.dropWhile_cons_of_pos (by rw [hc]; rfl), ih hcs, withoutCommas_comma]
      · by_cases hpoint : c = '.'
        · subst hpoint
          rw [List.dropWhile_cons_of_pos (by rw [hc]; rfl), ih hcs, withoutCommas_cons hcomma]
          rfl
        · have hkept : p c = false := by simp [hc, hpoint, hcomma]
          rw [List.dropWhile_cons_of_neg (by simp [hkept]), withoutCommas_cons hcomma,
            List.dropWhile_cons_of_neg (by simpa using hpoint)]

lemma withoutCommas_trimBoth (h : ∀ c ∈ cs, p c = (c == '.' || c == ',')) :
    withoutCommas (trimBoth p cs) = trimBoth (· == '.') (withoutCommas cs) := by
  have hrest : ∀ c ∈ (cs.dropWhile p).reverse, p c = (c == '.' || c == ',') :=
    fun c hc => h c ((List.dropWhile_suffix p).subset (List.mem_reverse.mp hc))
  rw [trimBoth_eq, trimBoth_eq, List.rdropWhile, List.rdropWhile, withoutCommas_reverse,
    withoutCommas_dropWhile hrest, withoutCommas_reverse, withoutCommas_dropWhile h]

end Trimming

section Utterance

variable {text : String} (hsolid : ∀ c ∈ text.toList, isBlank c = false)
include hsolid

/-- A text without blanks is one field. -/
lemma normalize_of_solid : Text.normalize text = text := by
  by_cases hne : text.toList = []
  · obtain rfl := String.toList_eq_nil_iff.mp hne
    rfl
  · exact normalize_of_unfields (List.forall_mem_singleton.mpr ⟨hne, hsolid⟩) rfl

lemma trimBlanks_of_solid : trimBlanks text = text := by
  rw [trimBlanks, trimBoth_of_forall_neg hsolid, String.ofList_toList]

/-- **What trimming does to a number in figures**: without the commas, it drops the points at its
ends. -/
lemma withoutCommas_bareText {d : Decimal} (h : IsDecimal (withoutCommas text.toList) d) :
    withoutCommas (bareText text).toList = trimBoth (· == '.') (withoutCommas text.toList) := by
  rw [toList_bareText, normalize_of_solid hsolid, trimCapture]
  refine withoutCommas_trimBoth fun c hc => ?_
  rw [hsolid c hc, Bool.false_or]
  by_cases hcomma : c = ','
  · subst hcomma
    decide
  · have hkept : c ∈ withoutCommas text.toList := List.mem_filter.mpr ⟨hc, by simpa using hcomma⟩
    rcases h.mem hkept with hstands | rfl
    · have hpoint : c ≠ '.' := by
        rintro rfl
        exact not_standsInNumber_point hstands
      rw [isSentencePunctuation_of_standsInNumber hstands]
      simp [hpoint, hcomma]
    · decide

/-- A number word is taken as it is. -/
lemma bareText_of_numberWord (h : lower text ∈ numberWords) : bareText text = text :=
  (bareText_eq_self_iff (normalize_of_solid hsolid)).mpr
    ⟨fun _ hc => isSentencePunctuation_of_numberWord h (List.mem_of_head? hc),
      fun _ hc => isSentencePunctuation_of_numberWord h (List.mem_of_getLast? hc)⟩

end Utterance

/-! ## Points that are trimmed -/

/-- The value of a number in figures has the size of the number, up to a factor of two, or is
zero. -/
lemma rational?_of_writtenNumber? {cs : List Char} {d : Decimal} (h : IsDecimal cs d) {v : Json}
    (hv : writtenNumber? cs d = some v) :
    ∃ q, v.rational? = some q ∧ (q ≠ 0 →
      |q| ≤ 2 * (d.digits * 10 ^ d.power) ∧ 2 * (d.digits * 10 ^ d.power : ℚ) ≤ 3 * |q|) := by
  rw [writtenNumber?] at hv
  cases hinteger : readInteger? cs with
  | some n =>
      rw [hinteger] at hv
      obtain rfl := Option.some.inj hv
      obtain ⟨negative, digits, hdecimal, rfl⟩ :=
        isDecimal_of_isInteger (isInteger_of_readInteger? hinteger)
      obtain rfl := hdecimal.unique h
      refine ⟨_, rfl, fun _ => ?_⟩
      have hsize : |((if negative then -(digits : ℤ) else digits : ℤ) : ℚ)| = digits := by
        split <;> simp
      have hpos : (0 : ℚ) ≤ digits := Nat.cast_nonneg digits
      rw [hsize, zpow_zero, mul_one]
      constructor <;> linarith
  | none =>
      rw [hinteger] at hv
      obtain ⟨x, hx, rfl⟩ := Option.map_eq_some_iff.mp hv
      exact ⟨x.toRat, rfl, Binary64.ofDecimal?_close hx⟩

/-- **A point at the beginning counts**: without it the number is another one, unless rounding makes
both of them zero. -/
lemma eq_zero_of_point_cons {cs : List Char} {d d' : Decimal} (h : IsDecimal ('.' :: cs) d)
    (h' : IsDecimal cs d') {v v' : Json} (hv : writtenNumber? ('.' :: cs) d = some v)
    (hv' : writtenNumber? cs d' = some v') (hsame : v'.rational? = v.rational?) :
    v.rational? = some 0 := by
  obtain ⟨_, places, hplaces, hshifted⟩ := h.of_point_cons
  obtain rfl := h'.unique hshifted
  obtain ⟨q, hq, hsmall⟩ := rational?_of_writtenNumber? h hv
  obtain ⟨q', hq', hlarge⟩ := rational?_of_writtenNumber? h' hv'
  obtain rfl : q' = q := by rw [hq, hq'] at hsame; exact Option.some.inj hsame
  rw [hq]
  by_contra hne
  have hne : q' ≠ 0 := fun hzero => hne (congrArg some hzero)
  obtain ⟨hle, _⟩ := hsmall hne
  obtain ⟨_, hge⟩ := hlarge hne
  have hten : (10 : ℚ) ≤ 10 ^ places := by
    calc (10 : ℚ) = 10 ^ 1 := (pow_one 10).symm
      _ ≤ 10 ^ places := pow_le_pow_right₀ (by norm_num) hplaces
  have hsize : (0 : ℚ) ≤ d.digits * 10 ^ d.power := by positivity
  rw [zpow_add₀ (by norm_num), zpow_natCast, ← mul_assoc] at hge
  have hmore : (d.digits * 10 ^ d.power : ℚ) * 10 ≤ d.digits * 10 ^ d.power * 10 ^ places :=
    mul_le_mul_of_nonneg_left hten hsize
  have hpos : 0 < |q'| := abs_pos.mpr hne
  linarith

lemma trimBoth_point_cons {cs : List Char} (h : '.' ∉ cs) :
    trimBoth (· == '.') ('.' :: cs) = cs := by
  have hself : trimBoth (· == '.') cs = cs :=
    trimBoth_of_forall_neg fun c hc => beq_false_of_ne (ne_of_mem_of_not_mem hc h)
  exact hself

lemma trimBoth_concat_point {cs : List Char} (h : '.' ∉ cs) :
    trimBoth (· == '.') (cs ++ ['.']) = cs := by
  rw [trimBoth_append_of_pos (by simp)]
  exact trimBoth_point_cons h

/-- A text that begins with a point does not end with one as well. -/
lemma point_cons_ne_concat_point {cs ds : List Char} (h : '.' ∉ cs) (hne : cs ≠ []) :
    '.' :: ds ≠ cs ++ ['.'] := by
  obtain ⟨c, rest, rfl⟩ := List.exists_cons_of_ne_nil hne
  intro hsame
  obtain ⟨rfl, _⟩ := List.cons.inj hsame
  exact h List.mem_cons_self

lemma not_mem_of_readInteger? {cs : List Char} {n : ℤ} (h : readInteger? cs = some n) : '.' ∉ cs :=
  fun hpoint => not_standsInNumber_point
    ((isInteger_of_readInteger? h).standsInNumber '.' hpoint)

lemma ne_nil_of_readInteger? {cs : List Char} {n : ℤ} (h : readInteger? cs = some n) : cs ≠ [] :=
  (isInteger_of_readInteger? h).ne_nil

/-- A number in figures with a point in it is no integer. -/
lemma readInteger?_of_point {cs : List Char} (h : '.' ∈ cs) : readInteger? cs = none := by
  by_contra hsome
  obtain ⟨n, hn⟩ := Option.ne_none_iff_exists'.mp hsome
  exact not_mem_of_readInteger? hn h

section Said

variable {text : String} (hsolid : ∀ c ∈ text.toList, isBlank c = false)
include hsolid

/-- Without a point at an end, commas aside, what is said is the number itself. -/
lemma spokenNumber?_bareText {d : Decimal} (h : IsDecimal (withoutCommas text.toList) d)
    (hfront : ∀ cs, withoutCommas text.toList ≠ '.' :: cs)
    (hback : ∀ cs, withoutCommas text.toList ≠ cs ++ ['.']) :
    spokenNumber? (bareText text) = spokenNumber? text := by
  have hself : trimBoth (· == '.') (withoutCommas text.toList) = withoutCommas text.toList := by
    refine trimBoth_eq_self_iff.mpr ⟨fun c hc => ?_, fun c hc => ?_⟩
    · refine beq_false_of_ne fun hpoint => ?_
      obtain ⟨cs, hcs⟩ := List.head?_eq_some_iff.mp hc
      exact hfront cs (hpoint ▸ hcs)
    · refine beq_false_of_ne fun hpoint => ?_
      obtain ⟨cs, hcs⟩ := List.getLast?_eq_some_iff.mp hc
      exact hback cs (hpoint ▸ hcs)
  have hbare := withoutCommas_bareText hsolid h
  rw [hself] at hbare
  rw [spokenNumber?_of_isDecimal (hbare.symm ▸ h), hbare, ← spokenNumber?_of_isDecimal h]

/-- What is said of a number with a point at the beginning. -/
lemma numberOf?_of_point_cons {cs : List Char} {d : Decimal}
    (htext : withoutCommas text.toList = '.' :: cs) (h : IsDecimal ('.' :: cs) d) {v : Json}
    (hv : spokenNumber? text = some v) :
    numberOf? (bareText text) = numberOf? text ↔
      numberOf? text = some 0 ∧ numberOf? (bareText text) = some 0 := by
  obtain ⟨hpoint, places, _, h'⟩ := h.of_point_cons
  have hbare : withoutCommas (bareText text).toList = cs := by
    rw [withoutCommas_bareText hsolid (htext ▸ h), htext, trimBoth_point_cons hpoint]
  have hv' : writtenNumber? ('.' :: cs) d = some v := by
    rw [← hv, spokenNumber?_of_isDecimal (htext ▸ h), htext]
  have hbare' := spokenNumber?_of_isDecimal (hbare.symm ▸ h')
  rw [hbare] at hbare'
  constructor
  · intro hsame
    have hzero : numberOf? text = some 0 := by
      rw [numberOf?, numberOf?, hv, Option.bind_some] at hsame
      rw [numberOf?, hv, Option.bind_some]
      cases hwritten : spokenNumber? (bareText text) with
      | none =>
          obtain ⟨q, hq⟩ := exists_rational?_of_spokenNumber? hv
          rw [hwritten, hq] at hsame
          cases hsame
      | some v' =>
          rw [hwritten, Option.bind_some] at hsame
          exact eq_zero_of_point_cons h h' hv' (hbare' ▸ hwritten) hsame
    exact ⟨hzero, hsame.trans hzero⟩
  · rintro ⟨hzero, hzero'⟩
    rw [hzero, hzero']

/-- What is said of a number with a point at the end: it is kept, unless it is an integer that had
to be rounded. -/
lemma numberOf?_of_concat_point {cs : List Char} {d : Decimal}
    (htext : withoutCommas text.toList = cs ++ ['.']) (h : IsDecimal (cs ++ ['.']) d) :
    numberOf? (bareText text) = numberOf? text ↔
      ∀ n, readInteger? cs = some n → numberOf? text = some (n : ℚ) := by
  obtain ⟨hpoint, h'⟩ := h.of_concat_point
  have hbare : withoutCommas (bareText text).toList = cs := by
    rw [withoutCommas_bareText hsolid (htext ▸ h), htext, trimBoth_concat_point hpoint]
  have hv := spokenNumber?_of_isDecimal (htext.symm ▸ h)
  have hbare' := spokenNumber?_of_isDecimal (hbare.symm ▸ h')
  rw [htext, writtenNumber?, readInteger?_of_point (by simp)] at hv
  rw [hbare, writtenNumber?] at hbare'
  cases hinteger : readInteger? cs with
  | some n =>
      rw [hinteger] at hbare'
      have hn : numberOf? (bareText text) = some (n : ℚ) := by
        rw [numberOf?, hbare']
        rfl
      rw [hn]
      simp [eq_comm]
  | none =>
      rw [hinteger] at hbare'
      rw [numberOf?, numberOf?, hv, hbare']
      simp

/-- **Which numbers survive trimming**: those without a point at an end are kept as they are, and a
point at an end may only go where the number is the same without it. -/
lemma numberOf?_bareText_iff {v : Json} (hv : spokenNumber? text = some v) :
    ((∀ cs, withoutCommas text.toList ≠ '.' :: cs) →
      (∀ cs, withoutCommas text.toList ≠ cs ++ ['.']) → spokenNumber? (bareText text) = some v) ∧
    (numberOf? (bareText text) = numberOf? text ↔
      (∀ cs, withoutCommas text.toList = '.' :: cs →
        numberOf? text = some 0 ∧ numberOf? (bareText text) = some 0) ∧
      ∀ cs n, withoutCommas text.toList = cs ++ ['.'] → readInteger? cs = some n →
        numberOf? text = some (n : ℚ)) := by
  rcases isDecimal_or_of_spokenNumber? hv with ⟨d, hd⟩ | hword
  · by_cases hfront : ∃ cs, withoutCommas text.toList = '.' :: cs
    · obtain ⟨cs, hcs⟩ := hfront
      rw [hcs] at hd
      rw [numberOf?_of_point_cons hsolid hcs hd hv]
      refine ⟨fun hnot => absurd hcs (hnot cs), fun h => ⟨fun _ _ => h, ?_⟩, fun h => h.1 cs hcs⟩
      intro ds n hds hn
      exact absurd (hcs.symm.trans hds)
        (point_cons_ne_concat_point (not_mem_of_readInteger? hn) (ne_nil_of_readInteger? hn))
    · have hfront := not_exists.mp hfront
      by_cases hback : ∃ cs, withoutCommas text.toList = cs ++ ['.']
      · obtain ⟨cs, hcs⟩ := hback
        rw [hcs] at hd
        rw [numberOf?_of_concat_point hsolid hcs hd]
        refine ⟨fun _ hnot => absurd hcs (hnot cs), fun h => ⟨fun ds hds => ?_, ?_⟩, ?_⟩
        · exact absurd hds (hfront ds)
        · intro ds n hds hn
          obtain rfl := List.append_cancel_right (hcs.symm.trans hds)
          exact h n hn
        · exact fun h n hn => h.2 cs n hcs hn
      · have hback := not_exists.mp hback
        have hkept : spokenNumber? (bareText text) = some v := by
          rw [spokenNumber?_bareText hsolid hd hfront hback, hv]
        refine ⟨fun _ _ => hkept, fun _ => ⟨fun ds hds => absurd hds (hfront ds), ?_⟩, fun _ => ?_⟩
        · exact fun ds n hds => absurd hds (hback ds)
        · rw [numberOf?, numberOf?, hkept, hv]
  · have hpoint : '.' ∉ withoutCommas text.toList := by
      intro hmem
      have hmark := isSentencePunctuation_of_numberWord hword (List.mem_filter.mp hmem).1
      exact absurd hmark (by decide)
    rw [bareText_of_numberWord hsolid hword]
    refine ⟨fun _ _ => hv, fun _ => ⟨fun cs hcs => ?_, fun cs n hcs => ?_⟩, fun _ => rfl⟩
    · exact absurd (hcs ▸ List.mem_cons_self) hpoint
    · exact absurd (hcs ▸ by simp) hpoint

end Said

/-- An integer below `2 ^ 53` is not rounded. -/
lemma numberOf?_of_small {text : String} {v : Json} (hv : spokenNumber? text = some v)
    {cs : List Char} (htext : withoutCommas text.toList = cs ++ ['.']) {n : ℤ}
    (hn : readInteger? cs = some n) (hsmall : n.natAbs < 2 ^ 53) :
    numberOf? text = some (n : ℚ) := by
  obtain ⟨negative, digits, hdecimal, rfl⟩ :=
    isDecimal_concat_point (isInteger_of_readInteger? hn)
  rw [spokenNumber?_of_isDecimal (htext ▸ hdecimal), htext, writtenNumber?,
    readInteger?_of_point (by simp)] at hv
  obtain ⟨x, hx, rfl⟩ := Option.map_eq_some_iff.mp hv
  have hlt : digits < 2 ^ 53 := by
    split at hsmall <;> simpa using hsmall
  rw [numberOf?, spokenNumber?_of_isDecimal (htext ▸ hdecimal), htext, writtenNumber?,
    readInteger?_of_point (by simp), hx]
  show some x.toRat = _
  rw [Binary64.toRat_ofDecimal?_of_lt hlt hx]
  split <;> simp

/-! ## Numbers that are said to a model -/

/-- What a number type makes of a text. -/
lemma InputTypes.coerce_number {types : InputTypes} {name : String} {t : InputType}
    (htype : types.find? name = some t) (hnumber : t.domain = .number) {text : String}
    (htext : trimBlanks text = text) :
    (types.coerce name text).toOption = spokenNumber? text := by
  rw [coerce, htype]
  simp only [InputType.coerce, htext, hnumber]
  cases spokenNumber? text <;> rfl

/-- A word and a slot are written out into a request. -/
lemma ways_request {w : List Char} (hword : words w = [w]) (name : String) :
    Template.ways [.word w, .slot name] = [Phrasing.request [w] name] := by
  have htokens : Template.wordTokens w = [.word w] := by
    rw [Template.wordTokens, hword]
    rfl
  simp only [Template.ways, Node.ways, htokens]
  rfl

/-- **What becomes of a number that is said after the word**: the slot gets the number of the text
without the punctuation around it. -/
lemma result?_request {m : Model} {name : String} {t : InputType}
    (htype : m.types.find? name = some t) (hnumber : t.domain = .number) {w : List Char}
    (hw : IsField w) {text : String} (hword : hasWord text = true) (scope : Scope) (b : Binding) :
    Attempt.result? m (Text.normalize (String.ofList w ++ " " ++ text))
        ⟨scope, b, Phrasing.request [w] name⟩ =
      (spokenNumber? (bareText text)).map fun v => ⟨b, scope, .ofList [(name, v)]⟩ := by
  have hsolid : ∀ v ∈ [w], IsField v := List.forall_mem_singleton.mpr hw
  have hfields : fields (String.ofList w ++ " " ++ text).toList = [w] ++ fields text.toList := by
    refine fields_append_words ?_ text
    rw [String.toList_ofList]
    exact fields_unfields hsolid
  rw [Attempt.result?, captures?_request hsolid hfields (.cons (.refl w) .nil) hword,
    Option.bind_some, InputTypes.coerceAll?_singleton,
    InputTypes.coerce_number htype hnumber (trimBlanks_bareText hword), Option.map_map]
  rfl

/-- **Which numbers are understood as they are said.**  Let a word and a slot for a number be the
only template of a model that is understood at any time.  Say the word and a text without blanks
that the slot's type accepts, while no goal is active.  What is understood is the text without the
punctuation around it.  If, commas aside, no point stands at an end of the text, that is the number
itself.  Otherwise it is the same number exactly if a point at the beginning did not matter because
both numbers are zero, and a point at the end did not stand behind an integer that had to be
rounded; an integer below `2 ^ 53` does not have to be. -/
theorem spoken_number_is_kept_iff {d : Declarations} {m : Model} (hbuild : d.build = .ok m)
    {template name : String} {handler : Handler} {w : List Char}
    (hresponders : d.responders = [⟨[template], handler⟩])
    (hparse : Template.parse template = .ok [.word w, .slot name]) (hword : words w = [w])
    {t : InputType} (htype : d.types.find? name = some t) (hnumber : t.domain = .number)
    {text : String} (hsolid : ∀ c ∈ text.toList, isBlank c = false) (htext : hasWord text = true)
    {v : Json} (hv : d.types.coerce name text = .ok v) :
    let utterance := String.ofList w ++ " " ++ text
    let clean := withoutCommas text.toList
    (∀ r, m.resolve none utterance = .ok r ↔ ∃ v', spokenNumber? (bareText text) = some v' ∧
      r = ⟨⟨⟨template, [Phrasing.request [w] name]⟩, handler⟩, .global, .ofList [(name, v')]⟩) ∧
    ((∀ cs, clean ≠ '.' :: cs) → (∀ cs, clean ≠ cs ++ ['.']) →
      ∃ r, m.resolve none utterance = .ok r ∧ r.values.find? name = some v) ∧
    ((∃ r v', m.resolve none utterance = .ok r ∧ r.values.find? name = some v' ∧
        v'.rational? = v.rational?) ↔
      (∀ cs, clean = '.' :: cs → v.rational? = some 0 ∧ numberOf? (bareText text) = some 0) ∧
      ∀ cs n, clean = cs ++ ['.'] → readInteger? cs = some n → v.rational? = some (n : ℚ)) ∧
    ∀ cs n, clean = cs ++ ['.'] → readInteger? cs = some n → n.natAbs < 2 ^ 53 →
      v.rational? = some (n : ℚ) := by
  intro utterance clean
  have hw : IsField w := by
    obtain ⟨hsolidw, _⟩ := List.forall_mem_cons.mp (Template.solid_parse hparse)
    cases hsolidw with
    | word h => exact ⟨ne_nil_of_mem_words (hword ▸ List.mem_singleton_self w), h⟩
  obtain ⟨htypes, -, -⟩ := Declarations.build_eq_ok_iff.mp hbuild
  have hglobals := Declarations.globals_of_single hbuild hresponders hparse (List.cons_ne_nil _ _)
    (ways_request hword name)
  have hutterance : hasWord utterance = true := hasWord_append_right htext _
  have hresolve : (m.resolve none utterance).toOption =
      Attempt.result? m (Text.normalize utterance)
        ⟨.global, ⟨⟨template, [Phrasing.request [w] name]⟩, handler⟩, .request [w] name⟩ := by
    rw [toOption_resolve, hasWord_normalize, if_pos hutterance, Model.attempts, hglobals]
    exact List.findSome?_singleton
  rw [result?_request (htypes ▸ htype) hnumber hw htext] at hresolve
  have hok : ∀ r, m.resolve none utterance = .ok r ↔
      ∃ v', spokenNumber? (bareText text) = some v' ∧
        r = ⟨⟨⟨template, [Phrasing.request [w] name]⟩, handler⟩, .global,
          .ofList [(name, v')]⟩ := by
    intro r
    rw [eq_ok_iff_toOption, hresolve, Option.map_eq_some_iff]
    simp [eq_comm]
  have hspoken : spokenNumber? text = some v := by
    rw [← InputTypes.coerce_number htype hnumber (trimBlanks_of_solid hsolid), hv]
    rfl
  have hnumberOf : numberOf? text = v.rational? := by rw [numberOf?, hspoken, Option.bind_some]
  have hfind : ∀ v' : Json, (Dict.ofList [(name, v')]).find? name = some v' := fun v' => by
    simp [Dict.ofList]
  obtain ⟨hkept, hsame⟩ := numberOf?_bareText_iff hsolid hspoken
  rw [hnumberOf] at hsame
  refine ⟨hok, fun hfront hback => ?_, ?_, fun cs n hcs hn hsmall => ?_⟩
  · exact ⟨_, (hok _).mpr ⟨v, hkept hfront hback, rfl⟩, hfind v⟩
  · rw [← hsame]
    constructor
    · rintro ⟨r, v', hr, hv', hequal⟩
      obtain ⟨v'', hv'', rfl⟩ := (hok r).mp hr
      obtain rfl := Option.some.inj ((hfind v'').symm.trans hv')
      rw [numberOf?, hv'', Option.bind_some, hequal]
    · intro hequal
      obtain ⟨q, hq⟩ := exists_rational?_of_spokenNumber? hspoken
      obtain ⟨v', hv', hnumber'⟩ := Option.bind_eq_some_iff.mp (hequal.trans hq)
      exact ⟨_, v', (hok _).mpr ⟨v', hv', rfl⟩, hfind v', hnumber'.trans hq.symm⟩
  · rw [← hnumberOf]
    exact numberOf?_of_small hspoken hcs hn hsmall

/-- A tally, which is told the numbers to add. -/
def tally : Declarations :=
  ((Declarations.empty .unlimited 8).addType (InputType.number "n")).respondTo ["add [[n]]"]
    (.immediate (Act.say "[[n]]"))

/-- The only binding of the tally. -/
def tallyBinding : Binding :=
  ⟨⟨"add [[n]]", [Phrasing.request ["add".toList] "n"]⟩, .immediate (Act.say "[[n]]")⟩

/-- The tally when it is built. -/
def tallyModel : Model where
  types := InputTypes.add .empty (InputType.number "n")
  globals := [tallyBinding]
  goals := []

lemma parse_add : Template.parse "add [[n]]" = .ok [.word "add".toList, .slot "n"] :=
  @Template.parse_spell [.word "add".toList, .slot "n"] (by decide)

lemma words_add : words "add".toList = ["add".toList] := by decide

lemma find_tally : tally.types.find? "n" = some (InputType.number "n") := by decide

lemma build_tally : tally.build = .ok tallyModel :=
  Declarations.build_of_spelledBy (d := tally) (t := ⟨[[[.word "add".toList, .slot "n"]]], []⟩)
    (by decide)

/-- “-1,200.” is accepted as a number that is rounded, and understood as the same integer. -/
theorem debt_is_added :
    tally.build = .ok tallyModel ∧ ∃ v,
      tally.types.coerce "n" "-1,200." = .ok v ∧
      ∃ r v', tallyModel.resolve none "add -1,200." = .ok r ∧ r.values.find? "n" = some v' ∧
        v'.rational? = v.rational? := by
  have hv : tally.types.coerce "n" "-1,200." = .ok (.float ⟨true, 5277655813324800, -42⟩) := by
    rfl
  have hfield : IsField "-1,200.".toList := by decide
  obtain ⟨_, _, hsame, hsmall⟩ := spoken_number_is_kept_iff build_tally rfl parse_add words_add
    find_tally rfl hfield.2 (by decide) hv
  refine ⟨build_tally, _, hv, hsame.mpr ⟨fun cs hcs => ?_, fun cs n hcs hn => ?_⟩⟩
  · exact absurd (List.cons.inj hcs).1 (by decide)
  · have hcs : "-1200".toList ++ ['.'] = cs ++ ['.'] := hcs
    obtain rfl := List.append_cancel_right hcs
    obtain rfl : (-1200 : ℤ) = n := Option.some.inj hn
    exact hsmall _ _ hcs hn (by decide)

/-- “.5” is accepted as a half and understood as five. -/
theorem half_is_added_as_five :
    tally.build = .ok tallyModel ∧
      Template.parse "add [[n]]" = .ok [.word "add".toList, .slot "n"] ∧
      tally.types.find? "n" = some (InputType.number "n") ∧
      (∀ c ∈ ".5".toList, isBlank c = false) ∧ hasWord ".5" = true ∧
      ∃ v r, tally.types.coerce "n" ".5" = .ok v ∧ tallyModel.resolve none "add .5" = .ok r ∧
        r.values.find? "n" = some (.int 5) ∧ (Json.int 5).rational? ≠ v.rational? := by
  have hresolve : (tallyModel.resolve none "add .5").toOption.map (·.values.entries) =
      some [("n", .int 5)] := by rfl
  obtain ⟨r, hr, hentries⟩ := Option.map_eq_some_iff.mp hresolve
  have hfield : IsField ".5".toList := by decide
  refine ⟨build_tally, parse_add, find_tally, hfield.2, by decide,
    .float ⟨false, 4503599627370496, -53⟩, r, rfl, eq_ok_iff_toOption.mpr hr, ?_, ?_⟩
  · rw [Dict.find?, hentries]
    rfl
  · norm_num [Json.rational?, Binary64.toRat]

end Dialogue
