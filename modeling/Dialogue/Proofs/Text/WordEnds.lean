import Dialogue.Template.Pattern
import Dialogue.Proofs.Text.Words

/-!
# Where words end

Some sentence punctuation may stand in the middle of a word, as in `3.14` or `U.S.A`, but none may
stand at its end.  The rules of segmentation let such a character stay with what is before it only
if a letter or a digit comes after it, and then they let that one stay as well.  So a segment that
ends in sentence punctuation consists of nothing else, and is no word.

* `joins_next` — what is joined to a punctuation mark's left brings its right.
* `eq_nil_of_ends` — a segment that ends in sentence punctuation is nothing else.
* **`not_ends_of_mem_words`** — no word ends in sentence punctuation.
-/

namespace Dialogue.Text

/-- The marks of sentence punctuation. -/
def sentenceMarks : List Char := ['.', ',', '?', '!', ';', ':', '"', '(', ')']

/-- What holds of sentence punctuation is checked mark by mark. -/
lemma of_isSentencePunctuation {p : Char → Prop} [DecidablePred p]
    (hall : (sentenceMarks.all fun c => decide (p c)) = true) {c : Char}
    (h : isSentencePunctuation c = true) : p c :=
  of_decide_eq_true (List.all_eq_true.mp hall c (List.contains_iff_mem.mp h))

namespace WordBreak

/-! ## The classes of sentence punctuation -/

/-- What a class needs for a word to end before it: it is not one that sticks to its neighbours
whatever follows. -/
def Class.isMark (k : Class) : Bool :=
  k == .midEither || k == .midLetter || k == .midNumber || k == .doubleQuote || k == .other

lemma isMark_of_isSentencePunctuation {c : Char} (h : isSentencePunctuation c = true) :
    (Class.of c).isMark = true ∧ isPictograph c = false :=
  of_isSentencePunctuation (p := fun c => (Class.of c).isMark = true ∧ isPictograph c = false)
    (by decide) h

lemma Context.after_of_isMark {x : Context} {c : Char} (h : (Class.of c).isMark = true) :
    x.after c = ⟨Class.of c, Class.of c, x.counted, false⟩ := by
  rw [Context.after]
  generalize Class.of c = k at h
  cases k <;> first | rfl | cases h

/-- What stands around a mark that keeps its two sides together: letters, or Hebrew letters around
a quotation mark, or digits. -/
def Context.HasSides (x : Context) (k next : Class) : Prop :=
  (x.counted.isLetter = true ∧ k.bridgesLetters = true ∧ next.isLetter = true) ∨
  (x.counted = .hebrew ∧ k = .doubleQuote ∧ next = .hebrew) ∨
  (x.counted = .digit ∧ k.bridgesDigits = true ∧ next = .digit)

/-- A mark is joined to what is before it only for the sake of what is after it. -/
lemma Context.joins_iff_of_isMark {x : Context} {c : Char} {rest : List Char}
    (hc : (Class.of c).isMark = true) (hpict : isPictograph c = false) :
    x.joins c rest = true ↔
      x.last.endsLine = false ∧ x.HasSides (Class.of c) (nextClass rest) := by
  rw [joins, HasSides, hpict]
  generalize Class.of c = k at hc
  generalize nextClass rest = n
  obtain ⟨last, counted, before, odd⟩ := x
  cases k with
  | midEither | midLetter | midNumber | doubleQuote | other =>
      simp [Class.endsLine, Class.transparent, Class.isLetter, Class.bridgesLetters,
        Class.bridgesDigits, Class.isWordly]
  | _ => exact absurd hc (by decide)

lemma nextClass_cons_of_not_transparent {e : Char} (h : (Class.of e).transparent = false)
    (es : List Char) : nextClass (e :: es) = Class.of e := by
  rw [nextClass, List.dropWhile_cons, h]
  rfl

/-- After a mark, a transparent character is joined in any case. -/
lemma Context.joins_of_transparent {x : Context} {k : Class} {e : Char} {es : List Char}
    (hlast : x.last = k) (hk : k.isMark = true) (he : (Class.of e).transparent = true) :
    x.joins e es = true := by
  rw [joins, hlast]
  generalize Class.of e = r at he
  cases k with
  | midEither | midLetter | midNumber | doubleQuote | other =>
      cases r with
      | extend | format | joiner => simp [Class.endsLine, Class.transparent]
      | _ => exact absurd he (by decide)
  | _ => exact absurd hk (by decide)

/-- After a mark with sides, the character of the right side is joined. -/
lemma Context.joins_of_hasSides {x : Context} {k : Class} {odd : Bool} {e : Char} {es : List Char}
    (hk : k.isMark = true) (hsides : x.HasSides k (Class.of e)) :
    Context.joins ⟨k, k, x.counted, odd⟩ e es = true := by
  have hmark : (k == .carriageReturn) = false ∧ k.endsLine = false ∧ (k == .joiner) = false ∧
      (k == .space) = false := by
    revert hk
    cases k <;> decide
  have hright : (Class.of e).endsLine = false := by
    rcases hsides with ⟨_, _, h⟩ | ⟨_, _, h⟩ | ⟨_, _, h⟩
    · revert h
      cases Class.of e <;> decide
    · rw [h]
      rfl
    · rw [h]
      rfl
  rw [joins]
  simp only [hmark, hright, Bool.false_and, Bool.or_self, Bool.false_eq_true, if_false]
  split
  · rfl
  · rcases hsides with ⟨hbefore, hk, hnext⟩ | ⟨hbefore, rfl, hnext⟩ | ⟨hbefore, hk, hnext⟩
    · simp [hbefore, hk, hnext]
    · simp [hbefore, hnext]
    · simp [hbefore, hk, hnext]

/-- **A mark that is joined to what is before it is joined to what is after it.** -/
lemma Context.joins_next {x : Context} {c : Char} {rest : List Char}
    (hc : (Class.of c).isMark = true) (hpict : isPictograph c = false)
    (h : x.joins c rest = true) : ∃ e es, rest = e :: es ∧ (x.after c).joins e es = true := by
  obtain ⟨_, hsides⟩ := (joins_iff_of_isMark hc hpict).mp h
  cases rest with
  | nil =>
      have hend : nextClass [] = .newline := rfl
      rw [hend] at hsides
      rcases hsides with ⟨_, _, hnext⟩ | ⟨_, _, hnext⟩ | ⟨_, _, hnext⟩ <;> cases hnext
  | cons e es =>
      refine ⟨e, es, rfl, ?_⟩
      rw [after_of_isMark hc]
      cases htransparent : (Class.of e).transparent with
      | true => exact joins_of_transparent rfl hc htransparent
      | false =>
          rw [nextClass_cons_of_not_transparent htransparent] at hsides
          exact joins_of_hasSides hc hsides

/-! ## Segments -/

lemma exists_segmentsAfter_cons (x : Context) (c : Char) (cs : List Char) :
    ∃ w ws, segmentsAfter x (c :: cs) = (c :: w) :: ws := by
  rcases segmentsAfter_cons x c cs with ⟨w, ws, _, h⟩ | h
  · exact ⟨w, ws, h⟩
  · exact ⟨[], _, h⟩

/-- Whether the first two characters are in one segment. -/
lemma segmentsAfter_cons_cons (x : Context) (c d : Char) (ds : List Char) :
    ∃ w ws, segmentsAfter (x.after c) (d :: ds) = (d :: w) :: ws ∧
      segmentsAfter x (c :: d :: ds) =
        if (x.after c).joins d ds then (c :: d :: w) :: ws else [c] :: (d :: w) :: ws := by
  obtain ⟨w, ws, hrest⟩ := exists_segmentsAfter_cons (x.after c) d ds
  refine ⟨w, ws, hrest, ?_⟩
  conv_lhs => unfold segmentsAfter
  dsimp only
  rw [hrest]

lemma eq_nil_of_append_eq_singleton {before : List Char} {a c : Char} (h : before ++ [c] = [a]) :
    before = [] := by
  rcases List.append_eq_singleton_iff.mp h with ⟨hnil, _⟩ | ⟨_, hnil⟩
  · exact hnil
  · cases hnil

/-- Sentence punctuation that is joined to what is before it does not end its segment. -/
lemma segmentsAfter_ne_of_joins {x : Context} {c : Char} {rest : List Char}
    (hc : isSentencePunctuation c = true) (hjoins : x.joins c rest = true) (ws : List (List Char)) :
    segmentsAfter x (c :: rest) ≠ [c] :: ws := by
  intro hends
  obtain ⟨hmark, hpict⟩ := isMark_of_isSentencePunctuation hc
  obtain ⟨e, es, rfl, hnext⟩ := Context.joins_next hmark hpict hjoins
  obtain ⟨w, ws', _, hlonger⟩ := segmentsAfter_cons_cons x c e es
  rw [if_pos hnext, hends] at hlonger
  cases hlonger

/-- **A segment that ends in sentence punctuation** is that character alone.  A character before it
in the segment would be joined to it, hence it would be joined to the next one. -/
lemma eq_nil_of_ends {cs : List Char} : ∀ {x : Context} {before : List Char} {c : Char},
    before ++ [c] ∈ segmentsAfter x cs → isSentencePunctuation c = true → before = [] := by
  induction cs with
  | nil =>
      intro x before c hmem
      exact absurd hmem List.not_mem_nil
  | cons a cs ih =>
      intro x before c hmem hc
      cases cs with
      | nil => exact eq_nil_of_append_eq_singleton (List.mem_singleton.mp hmem)
      | cons d ds =>
          obtain ⟨w, ws, hrest, hsegments⟩ := segmentsAfter_cons_cons x a d ds
          rw [hsegments] at hmem
          split at hmem
          · rename_i hjoins
            rcases List.mem_cons.mp hmem with hfirst | hlater
            · cases before with
              | nil => rfl
              | cons b before =>
                  rw [List.cons_append] at hfirst
                  obtain ⟨rfl, hends⟩ := List.cons.inj hfirst
                  -- without its first character it is a segment of the rest that ends in the same
                  have halone : before = [] := by
                    refine ih (x := x.after b) ?_ hc
                    rw [hrest, hends]
                    exact List.mem_cons_self
                  subst halone
                  obtain ⟨rfl, rfl⟩ := List.cons.inj hends
                  exact absurd hrest (segmentsAfter_ne_of_joins hc hjoins ws)
            · exact ih (hrest ▸ List.mem_cons_of_mem _ hlater) hc
          · rcases List.mem_cons.mp hmem with hsingle | hlater
            · exact eq_nil_of_append_eq_singleton hsingle
            · exact ih (hrest ▸ hlater) hc

end WordBreak

/-! ## Words -/

/-- Sentence punctuation is neither a letter nor a numeral. -/
lemma isAlphanumeric_of_isSentencePunctuation {c : Char} (h : isSentencePunctuation c = true) :
    isAlphanumeric c = false :=
  of_isSentencePunctuation (p := fun c => isAlphanumeric c = false) (by decide) h

/-- **No word ends in sentence punctuation.** -/
theorem not_ends_of_mem_words {cs before : List Char} {c : Char} (h : before ++ [c] ∈ words cs) :
    isSentencePunctuation c = false := by
  obtain ⟨hsegment, hletter⟩ := List.mem_filter.mp h
  by_contra hc
  have hc : isSentencePunctuation c = true := by simpa using hc
  rw [WordBreak.eq_nil_of_ends hsegment hc] at hletter
  simp [isAlphanumeric_of_isSentencePunctuation hc] at hletter

end Dialogue.Text
