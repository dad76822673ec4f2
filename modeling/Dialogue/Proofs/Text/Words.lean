import Dialogue.Text.WordBreak
import Dialogue.Proofs.Text.Fields

/-!
# Words and fields

The segments of a text put together are the text, whatever the rules of segmentation are
(`flatten_segments`).  That is all that matching needs to know about words: a word is a piece of the
text it was found in, and it is not empty.  Whether there is a word at all is a question about
characters, which the spacing does not affect (`hasWord_normalize`).
-/

namespace Dialogue.Text

/-! ## Segments -/

/-- A character joins the segment of the next one or is a segment of its own. -/
lemma WordBreak.segmentsAfter_cons (x : Context) (c : Char) (cs : List Char) :
    (∃ w ws, segmentsAfter (x.after c) cs = w :: ws ∧
      segmentsAfter x (c :: cs) = (c :: w) :: ws) ∨
    segmentsAfter x (c :: cs) = [c] :: segmentsAfter (x.after c) cs := by
  generalize hfound : segmentsAfter (x.after c) cs = found
  unfold segmentsAfter
  dsimp only
  rw [hfound]
  split
  · rename_i d ds w ws
    by_cases hj : (x.after c).joins d ds = true
    · exact .inl ⟨w, ws, rfl, if_pos hj⟩
    · exact .inr (if_neg hj)
  · exact .inr rfl

lemma WordBreak.flatten_segmentsAfter : ∀ (cs : List Char) (x : Context),
    (segmentsAfter x cs).flatten = cs
  | [], _ => rfl
  | c :: cs, x => by
      have ih := flatten_segmentsAfter cs (x.after c)
      rcases segmentsAfter_cons x c cs with ⟨w, ws, hws, h⟩ | h
      · rw [hws] at ih
        rw [h, ← ih]
        rfl
      · rw [h, List.flatten_cons, ih]
        rfl

/-- **The segments put together are the text.** -/
theorem flatten_segments (cs : List Char) : (segments cs).flatten = cs :=
  WordBreak.flatten_segmentsAfter cs .start

/-- A word is made of characters of the text. -/
lemma mem_of_mem_words {cs w : List Char} (hw : w ∈ words cs) {c : Char} (hc : c ∈ w) : c ∈ cs := by
  rw [← flatten_segments cs]
  exact List.mem_flatten.mpr ⟨w, (List.mem_filter.mp hw).1, hc⟩

lemma ne_nil_of_mem_words {cs w : List Char} (hw : w ∈ words cs) : w ≠ [] := by
  rintro rfl
  simpa using (List.mem_filter.mp hw).2

/-! ## Whether there is a word -/

/-- **A text holds a word** exactly if one of its segments is a word. -/
theorem hasWord_iff (text : String) : hasWord text = true ↔ words text.toList ≠ [] := by
  rw [hasWord, List.any_eq_true]
  conv_lhs => rw [← flatten_segments text.toList]
  constructor
  · rintro ⟨c, hc, hletter⟩
    obtain ⟨w, hw, hcw⟩ := List.mem_flatten.mp hc
    exact List.ne_nil_of_mem (List.mem_filter.mpr ⟨hw, List.any_eq_true.mpr ⟨c, hcw, hletter⟩⟩)
  · intro hne
    obtain ⟨w, hw⟩ := List.exists_mem_of_ne_nil _ hne
    obtain ⟨hsegment, hany⟩ := List.mem_filter.mp hw
    obtain ⟨c, hcw, hletter⟩ := List.any_eq_true.mp hany
    exact ⟨c, List.mem_flatten.mpr ⟨w, hsegment, hcw⟩, hletter⟩

/-- The blanks, one by one. -/
def blankPoints : List Nat := [
  0x9, 0xA, 0xB, 0xC, 0xD, 0x20, 0x85, 0xA0, 0x1680, 0x2000, 0x2001, 0x2002, 0x2003, 0x2004, 0x2005,
  0x2006, 0x2007, 0x2008, 0x2009, 0x200A, 0x2028, 0x2029, 0x202F, 0x205F, 0x3000]

lemma mem_blankPoints {c : Char} (h : isBlank c = true) : c.toNat ∈ blankPoints := by
  simp only [isBlank, within, blankEnds, Bool.and_eq_true, Bool.or_eq_true, decide_eq_true_eq,
    Bool.or_false] at h
  simp only [blankPoints, List.mem_cons, List.not_mem_nil, or_false]
  omega

lemma isBlank_of_isAlphanumeric {c : Char} (h : isAlphanumeric c = true) : isBlank c = false := by
  by_contra hblank
  have hc : c.toNat ∈ blankPoints := mem_blankPoints (by simpa using hblank)
  have hnone : ∀ n ∈ blankPoints,
      (within alphabeticEnds n || within numericEnds n) = false := by decide +kernel
  exact Bool.noConfusion ((hnone c.toNat hc).symm.trans h)

/-- **Spacing does not decide whether there is a word.** -/
theorem hasWord_normalize (text : String) : hasWord (normalize text) = hasWord text := by
  rw [Bool.eq_iff_iff, hasWord, hasWord, List.any_eq_true, List.any_eq_true]
  constructor
  · rintro ⟨c, hc, hletter⟩
    exact ⟨c, (mem_normalize (isBlank_of_isAlphanumeric hletter)).mp hc, hletter⟩
  · rintro ⟨c, hc, hletter⟩
    exact ⟨c, (mem_normalize (isBlank_of_isAlphanumeric hletter)).mpr hc, hletter⟩

end Dialogue.Text
