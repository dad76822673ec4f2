import Dialogue.Template.Pattern
import Dialogue.Proofs.Dict
import Dialogue.Proofs.Text.LetterCase

/-!
# Matching does not see case

A pattern asks of a character only how it folds, whether it may be attached to a word, and whether
it ends the line, and none of this depends on whether a letter is small.  So a phrasing matches a
text and the text with its letters written small in the same way: the atoms take the same numbers of
characters (`match?_small`), and the slots capture the same texts up to case
(`captures?_lowerAscii`).
-/

namespace Dialogue

open Text

lemma caseBlind_isAttached : CaseBlind Atom.isAttached := caseBlind_of_capitals (by decide)

lemma caseBlind_isSentencePunctuation : CaseBlind isSentencePunctuation :=
  caseBlind_of_capitals (by decide)

/-! ## Patterns -/

lemma Atom.offers_small (a : Atom) (cs : List Char) : a.offers (small cs) = a.offers cs := by
  cases a with
  | letter folded =>
      cases cs with
      | nil => rfl
      | cons c cs => rw [small_cons, offers, offers, caseBlind_fold]
  | punctuation =>
      rw [offers, offers, takeWhile_small caseBlind_isAttached, small, List.length_map]
  | span =>
      have hline : CaseBlind (· != '\n') := caseBlind_of_capitals (by decide)
      rw [offers, offers, takeWhile_small hline, small, List.length_map]

namespace Pattern

/-- **The atoms take the same numbers of characters.** -/
theorem match?_small (p : Pattern) (cs : List Char) : match? p (small cs) = match? p cs := by
  induction p generalizing cs with
  | nil => cases cs <;> rfl
  | cons a as ih =>
      have hdrop : ∀ n, (small cs).drop n = small (cs.drop n) := fun n => List.map_drop.symm
      rw [match?, match?, Atom.offers_small]
      simp only [hdrop, ih]

lemma spans_small (p : Pattern) (ns : List ℕ) (cs : List Char) :
    spans p ns (small cs) = (spans p ns cs).map small := by
  induction p generalizing ns cs with
  | nil => rfl
  | cons a as ih =>
      cases ns with
      | nil => cases a <;> rfl
      | cons n ns =>
          have hrest := ih ns (cs.drop n)
          rw [small, List.map_drop] at hrest
          cases a with
          | span => rw [spans, spans, small, ← List.map_take, hrest]; rfl
          | letter folded => exact hrest
          | punctuation => exact hrest

lemma spans?_small (p : Pattern) (cs : List Char) :
    spans? p (small cs) = (spans? p cs).map (List.map small) := by
  rw [spans?, spans?, match?_small, Option.map_map]
  exact congrArg (Option.map · _) (funext fun ns => spans_small p ns cs)

end Pattern

/-! ## Captures -/

lemma trimCapture_small (cs : List Char) : trimCapture (small cs) = small (trimCapture cs) := by
  refine trimBoth_small (fun c => ?_) cs
  rw [caseBlind_isBlank, caseBlind_isSentencePunctuation]

lemma captureSlots_small (names : List String) (spans : List (List Char)) (slots : Dict String) :
    captureSlots names (spans.map small) (slots.map lowerAscii) =
      (captureSlots names spans slots).map (Dict.map lowerAscii) := by
  induction names generalizing spans slots with
  | nil => rfl
  | cons name names ih =>
      cases spans with
      | nil => rfl
      | cons span spans =>
          have hempty : (small (trimCapture span)).isEmpty = (trimCapture span).isEmpty := by
            rw [small, List.isEmpty_map]
          rw [List.map_cons, captureSlots, captureSlots, trimCapture_small]
          rw [hempty, ← lowerAscii_ofList, ← Dict.map_insert, ih]
          split <;> rfl

/-- **The slots capture the same texts up to case.** -/
theorem captures?_lowerAscii (p : Phrasing) (text : String) :
    p.captures? (lowerAscii text) = (p.captures? text).map (Dict.map lowerAscii) := by
  rw [Phrasing.captures?, Phrasing.captures?, toList_lowerAscii, Pattern.spans?_small]
  cases Pattern.spans? (Pattern.ofPhrasing p) text.toList with
  | none => rfl
  | some spans => exact captureSlots_small p.slotNames spans .empty

end Dialogue
