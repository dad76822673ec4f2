import Dialogue.Proofs.Template.Captures
import Dialogue.Proofs.Template.Choices
import Dialogue.Proofs.Text.WordEnds

/-!
# Sentence punctuation at the end

Punctuation after the last field is taken care of in two places: where the last token is a word, it
is attached to that word, and where it is a slot, it is trimmed.  Since no word ends in sentence
punctuation itself, the two agree: with or without the punctuation, the fields can be aligned with a
phrasing in the same ways, and the slots stand for the same texts.

* `fieldMatches_append_iff` — a word ignores the sentence punctuation after it.
* `SameButEnd` — two texts of fields that differ in the sentence punctuation at the end only.
* `SameButEnd.trimCapture_eq` — a slot ignores it, too.
* `SameButEnd.aligned` — hence an alignment of one text is an alignment of the other.
* **`captures?_of_sameButEnd`** — a phrasing captures the same from both.
-/

namespace Dialogue

open Text

/-- The text consists of sentence punctuation. -/
def IsPunctuation (s : List Char) : Prop := ∀ c ∈ s, isSentencePunctuation c = true

/-! ## Words -/

lemma isAttached_of_isSentencePunctuation {c : Char} (h : isSentencePunctuation c = true) :
    Atom.isAttached c = true :=
  of_isSentencePunctuation (p := fun c => Atom.isAttached c = true) (by decide) h

/-- Only sentence punctuation folds to sentence punctuation. -/
lemma eq_of_fold_mark {c d : Char} (hd : isSentencePunctuation d = true) (h : fold c = fold d) :
    c = d := by
  obtain ⟨hfold, hpos, hlt⟩ := of_isSentencePunctuation
    (p := fun d => fold d = d ∧ 0 < d.toNat ∧ d.toNat < 97) (by decide) hd
  exact eq_of_fold (h.trans hfold) hpos hlt

/-- What a word takes does not end in sentence punctuation, as the word does not. -/
lemma not_ends_of_fold {raw w stretch : List Char} {c : Char} (hw : w ∈ words raw)
    (hfold : (stretch ++ [c]).map fold = w.map fold) : isSentencePunctuation c = false := by
  by_contra hc
  have hc : isSentencePunctuation c = true := by simpa using hc
  rw [List.map_append, List.map_singleton] at hfold
  obtain ⟨before, last, rfl, _, hlast⟩ := List.map_eq_append_iff.mp hfold.symm
  obtain ⟨d, rfl, hd⟩ := List.map_eq_singleton_iff.mp hlast
  rw [eq_of_fold_mark hc hd] at hw
  rw [not_ends_of_mem_words hw] at hc
  cases hc

/-- A text that ends where a word has been taken does not end in sentence punctuation. -/
lemma eq_nil_of_taken {raw w before stretch k left : List Char} (hw : w ∈ words raw)
    (hfold : stretch.map fold = w.map fold) (htaken : before ++ stretch = k ++ left)
    (hleft : IsPunctuation left) : left = [] := by
  rcases List.eq_nil_or_concat' left with hnil | ⟨left, c, rfl⟩
  · exact hnil
  · rcases List.eq_nil_or_concat' stretch with rfl | ⟨stretch, d, rfl⟩
    · exact absurd (List.map_eq_nil_iff.mp hfold.symm) (ne_nil_of_mem_words hw)
    · have hends : d = c := by
        have hlast := congrArg List.getLast? htaken
        simpa using hlast
      have hmark : isSentencePunctuation d = true := hleft d (by simp [hends])
      rw [not_ends_of_fold hw hfold] at hmark
      cases hmark

/-- **A word ignores the sentence punctuation after it.** -/
lemma fieldMatches_append_iff {raw w k s : List Char} (hw : w ∈ words raw) (hs : IsPunctuation s) :
    Pattern.FieldMatches w (k ++ s) ↔ Pattern.FieldMatches w k := by
  constructor
  · rintro ⟨before, stretch, after, hcut, hfold, hbefore, hafter⟩
    -- the word ends in the punctuation, or in what stands before it
    rcases List.append_eq_append_iff.mp hcut with ⟨left, htaken, rfl⟩ | ⟨left, rfl, rfl⟩
    · have hnil := eq_nil_of_taken hw hfold htaken (List.forall_mem_append.mp hs).1
      rw [hnil, List.append_nil] at htaken
      exact ⟨before, stretch, [], by rw [List.append_nil, htaken], hfold, hbefore,
        List.forall_mem_nil _⟩
    · exact ⟨before, stretch, left, rfl, hfold, hbefore, (List.forall_mem_append.mp hafter).1⟩
  · rintro ⟨before, stretch, after, rfl, hfold, hbefore, hafter⟩
    refine ⟨before, stretch, after ++ s, List.append_assoc _ _ _, hfold, hbefore, ?_⟩
    exact List.forall_mem_append.mpr
      ⟨hafter, fun c hc => isAttached_of_isSentencePunctuation (hs c hc)⟩

/-! ## Two texts of fields -/

/-- The texts have the same fields, except that the last ones may end in different sentence
punctuation. -/
inductive SameButEnd : List (List Char) → List (List Char) → Prop
  | nil : SameButEnd [] []
  | last (k : List Char) {s s' : List Char} (hs : IsPunctuation s) (hs' : IsPunctuation s') :
      SameButEnd [k ++ s] [k ++ s']
  | cons (f : List Char) {fs fs' : List (List Char)} (h : SameButEnd fs fs') :
      SameButEnd (f :: fs) (f :: fs')

namespace SameButEnd

variable {fs fs' : List (List Char)}

lemma symm (h : SameButEnd fs fs') : SameButEnd fs' fs := by
  induction h with
  | nil => exact .nil
  | last k hs hs' => exact .last k hs' hs
  | cons f _ ih => exact .cons f ih

lemma length_eq (h : SameButEnd fs fs') : fs.length = fs'.length := by
  induction h with
  | nil => rfl
  | last => rfl
  | cons f _ ih => rw [List.length_cons, List.length_cons, ih]

/-- Punctuation may be added to the last field. -/
lemma concat (fs : List (List Char)) (f : List Char) {s : List Char} (hs : IsPunctuation s) :
    SameButEnd (fs ++ [f]) (fs ++ [f ++ s]) := by
  induction fs with
  | nil =>
      have hlast := SameButEnd.last f (List.forall_mem_nil _) hs
      rwa [List.append_nil] at hlast
  | cons g fs ih => exact .cons g ih

/-- Where one text is cut between fields, the other one can be cut. -/
lemma exists_append {vs us : List (List Char)} (h : SameButEnd (vs ++ us) fs') :
    ∃ vs' us', fs' = vs' ++ us' ∧ SameButEnd vs vs' ∧ SameButEnd us us' := by
  induction vs generalizing fs' with
  | nil => exact ⟨[], fs', rfl, .nil, h⟩
  | cons v vs ih =>
      rw [List.cons_append] at h
      generalize hrest : vs ++ us = rest at h
      cases h with
      | last k hs hs' =>
          obtain ⟨rfl, rfl⟩ := List.append_eq_nil_iff.mp hrest
          exact ⟨_, [], rfl, .last k hs hs', .nil⟩
      | cons _ h =>
          obtain ⟨vs', us', rfl, hvs, hus⟩ := ih (hrest ▸ h)
          exact ⟨v :: vs', us', rfl, .cons v hvs, hus⟩

/-! ## Slots -/

/-- Written out, the texts agree up to the punctuation at their ends. -/
lemma exists_unfields (h : SameButEnd fs fs') : ∃ k s s',
    unfields fs = k ++ s ∧ unfields fs' = k ++ s' ∧ IsPunctuation s ∧ IsPunctuation s' := by
  induction h with
  | nil => exact ⟨[], [], [], rfl, rfl, List.forall_mem_nil _, List.forall_mem_nil _⟩
  | last k hs hs' => exact ⟨k, _, _, rfl, rfl, hs, hs'⟩
  | @cons f fs fs' h ih =>
      obtain ⟨k, s, s', hfs, hfs', hs, hs'⟩ := ih
      by_cases hend : fs = []
      · subst hend
        cases h
        exact ⟨f, [], [], (List.append_nil f).symm, (List.append_nil f).symm,
          List.forall_mem_nil _, List.forall_mem_nil _⟩
      · have hend' : fs' ≠ [] := by
          rintro rfl
          exact hend (List.length_eq_zero_iff.mp h.length_eq)
        refine ⟨f ++ ' ' :: k, s, s', ?_, ?_, hs, hs'⟩
        · rw [unfields_cons, spaced_eq hend, hfs, List.append_assoc, List.cons_append]
        · rw [unfields_cons, spaced_eq hend', hfs', List.append_assoc, List.cons_append]

/-- **A slot ignores the sentence punctuation at the end.** -/
lemma trimCapture_eq (h : SameButEnd fs fs') :
    trimCapture (unfields fs) = trimCapture (unfields fs') := by
  have htrim : ∀ {k s : List Char}, IsPunctuation s → trimCapture (k ++ s) = trimCapture k := by
    intro k s hs
    exact trimBoth_append_of_pos fun c hc => by simp [hs c hc]
  obtain ⟨k, s, s', hfs, hfs', hs, hs'⟩ := h.exists_unfields
  rw [hfs, hfs', htrim hs, htrim hs']

end SameButEnd

/-! ## Alignments -/

namespace SameButEnd

/-- **An alignment of one text is an alignment of the other**, with the same numbers of fields for
the slots and the same texts in them. -/
theorem aligned {p : Phrasing} (hp : ∀ t ∈ p, t.IsSpoken) {fs fs' : List (List Char)}
    (h : SameButEnd fs fs') {runs : List (List (List Char))} (hruns : Aligned p fs runs) :
    ∃ runs', Aligned p fs' runs' ∧ slotLengths p runs' = slotLengths p runs ∧
      slotTexts p runs' = slotTexts p runs := by
  induction p generalizing fs fs' runs with
  | nil =>
      obtain ⟨rfl, rfl⟩ := aligned_nil_iff.mp hruns
      cases h
      exact ⟨[], hruns, rfl, rfl⟩
  | cons t p ih =>
      obtain ⟨ht, hspoken⟩ := List.forall_mem_cons.mp hp
      cases t with
      | word w =>
          obtain ⟨raw, hw⟩ := ht
          obtain ⟨f, rest, runs, rfl, rfl, hf, hothers⟩ := aligned_word_iff.mp hruns
          cases h with
          | last k hs hs' =>
              obtain ⟨runs', hruns', hlengths, htexts⟩ := ih hspoken .nil hothers
              have hf' := (fieldMatches_append_iff hw hs').mpr
                ((fieldMatches_append_iff hw hs).mp hf)
              exact ⟨_, aligned_word_iff.mpr ⟨_, _, runs', rfl, rfl, hf', hruns'⟩, hlengths, htexts⟩
          | cons _ h =>
              obtain ⟨runs', hruns', hlengths, htexts⟩ := ih hspoken h hothers
              exact ⟨_, aligned_word_iff.mpr ⟨f, _, runs', rfl, rfl, hf, hruns'⟩, hlengths, htexts⟩
      | slot name =>
          obtain ⟨vs, us, runs, hvs, rfl, rfl, hothers⟩ := aligned_slot_iff.mp hruns
          obtain ⟨vs', us', rfl, hsame, hrest⟩ := h.exists_append
          obtain ⟨runs', hruns', hlengths, htexts⟩ := ih hspoken hrest hothers
          have hvs' : vs' ≠ [] := by
            rintro rfl
            exact hvs (List.length_eq_zero_iff.mp hsame.length_eq)
          refine ⟨vs' :: runs', aligned_slot_iff.mpr ⟨vs', us', runs', hvs', rfl, rfl, hruns'⟩,
            ?_, ?_⟩
          · exact congrArg₂ List.cons hsame.length_eq.symm hlengths
          · exact congrArg₂ List.cons hsame.trimCapture_eq.symm htexts

/-- The least alignments go together, since the numbers of fields do. -/
lemma leastAligned {p : Phrasing} (hp : ∀ t ∈ p, t.IsSpoken) {fs fs' : List (List Char)}
    (h : SameButEnd fs fs') {runs : List (List (List Char))} (hruns : LeastAligned p fs runs) :
    ∃ runs', LeastAligned p fs' runs' ∧ slotTexts p runs' = slotTexts p runs := by
  obtain ⟨runs', hruns', hlengths, htexts⟩ := h.aligned hp hruns.toAligned
  refine ⟨runs', ⟨hruns', fun other' hother' => ?_⟩, htexts⟩
  obtain ⟨other, hother, hsame, _⟩ := h.symm.aligned hp hother'
  rw [hlengths, ← hsame]
  exact hruns.least other hother

end SameButEnd

/-! ## Captures -/

section Captures

variable {p : Phrasing} {normalized normalized' : String} {fs fs' : List (List Char)}

lemma captures?_eq_some_of_sameButEnd (hp : p.Solid) (hne : p ≠ []) (hspoken : ∀ t ∈ p, t.IsSpoken)
    (hfs : ∀ f ∈ fs, IsField f) (hfs' : ∀ f ∈ fs', IsField f)
    (htext : normalized.toList = unfields fs) (htext' : normalized'.toList = unfields fs')
    (hsame : SameButEnd fs fs') {captured : Dict String}
    (h : p.captures? normalized = some captured) : p.captures? normalized' = some captured := by
  obtain ⟨runs, hruns, hfull, rfl⟩ := (captures?_eq_some_iff hp hne hfs htext).mp h
  obtain ⟨runs', hruns', htexts⟩ := hsame.leastAligned hspoken hruns
  rw [← htexts] at hfull ⊢
  exact (captures?_eq_some_iff hp hne hfs' htext').mpr ⟨runs', hruns', hfull, rfl⟩

/-- **A phrasing captures the same** from texts that differ in the sentence punctuation at the end
only. -/
theorem captures?_of_sameButEnd (hp : p.Solid) (hne : p ≠ []) (hspoken : ∀ t ∈ p, t.IsSpoken)
    (hfs : ∀ f ∈ fs, IsField f) (hfs' : ∀ f ∈ fs', IsField f)
    (htext : normalized.toList = unfields fs) (htext' : normalized'.toList = unfields fs')
    (hsame : SameButEnd fs fs') : p.captures? normalized' = p.captures? normalized := by
  refine Option.ext fun captured => ⟨fun h => ?_, fun h => ?_⟩
  · exact captures?_eq_some_of_sameButEnd hp hne hspoken hfs' hfs htext' htext hsame.symm h
  · exact captures?_eq_some_of_sameButEnd hp hne hspoken hfs hfs' htext htext' hsame h

end Captures

end Dialogue
