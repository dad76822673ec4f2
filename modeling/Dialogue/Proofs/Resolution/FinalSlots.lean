import Dialogue.Proofs.Number.Integers
import Dialogue.Proofs.Resolution.Bindings
import Dialogue.Proofs.Resolution.SingleSlots

/-!
# Requests that end with what they are about

Many templates are words and then a slot: “send me article”, and its number.  An utterance that
begins with the words and goes on with any text that holds a word is aligned with such a template in
one way only.  The slot takes all that follows the words, as it would take it if it stood alone.

* `FieldMatches.refl`, `FieldMatches.attached_or_mem` — which fields match a word.
* `leastAligned_request`, **`captures?_request`** — what the slot takes; `values?_of_request` — and
  what becomes of it.
* `captures?_request_eq_none` — an utterance that begins with another word is no such request.
* `coerce_bareText`, `coerce_integerText` — subjects that are any text, or an integer in digits.
-/

namespace Dialogue

open Text Pattern

/-! ## Words and fields -/

lemma Pattern.FieldMatches.refl (w : List Char) : FieldMatches w w :=
  ⟨[], w, [], by simp, rfl, List.forall_mem_nil _, List.forall_mem_nil _⟩

/-- The characters of a field are attached to the word or belong to it. -/
lemma Pattern.FieldMatches.attached_or_mem {w f : List Char} (h : FieldMatches w f) {c : Char}
    (hc : c ∈ f) : Atom.isAttached c = true ∨ fold c ∈ w.map fold := by
  obtain ⟨before, stretch, after, rfl, hstretch, hbefore, hafter⟩ := h
  rw [List.mem_append, List.mem_append] at hc
  rcases hc with (hc | hc) | hc
  · exact .inl (hbefore c hc)
  · exact .inr (hstretch ▸ List.mem_map_of_mem hc)
  · exact .inl (hafter c hc)

/-- A word without a character of a field does not match it, unless the character is one that
may be attached to words. -/
lemma Pattern.not_fieldMatches {w f : List Char} {c : Char} (hc : c ∈ f)
    (hplain : Atom.isAttached c = false) (hother : fold c ∉ w.map fold) : ¬ FieldMatches w f := by
  intro h
  rcases h.attached_or_mem hc with hattached | hmem
  · exact Bool.noConfusion (hplain.symm.trans hattached)
  · exact hother hmem

/-! ## Requests -/

/-- Words, and then a slot. -/
def Phrasing.request (ws : List (List Char)) (name : String) : Phrasing :=
  ws.map .word ++ [.slot name]

/-- Words that are followed by something. -/
lemma Text.fields_append_words {before : String} {ws : List (List Char)}
    (h : fields before.toList = ws) (subject : String) :
    fields (before ++ " " ++ subject).toList = ws ++ fields subject.toList := by
  have htext : (before ++ " " ++ subject).toList = before.toList ++ ' ' :: subject.toList := by
    simp
  rw [htext, fields_append_space, h]

lemma Text.hasWord_append_right {subject : String} (h : hasWord subject = true) (before : String) :
    hasWord (before ++ subject) = true := by
  rw [hasWord, String.toList_append, List.any_append, Bool.or_eq_true]
  exact .inr h

section Requests

variable {ws fs : List (List Char)} {name utterance subject : String}

lemma solid_request (hwords : ∀ w ∈ ws, IsField w) (name : String) :
    (Phrasing.request ws name).Solid := by
  intro t ht
  rcases List.mem_append.mp ht with ht | ht
  · obtain ⟨w, hw, rfl⟩ := List.mem_map.mp ht
    exact hwords w hw
  · obtain rfl := List.mem_singleton.mp ht
    trivial

lemma slotNames_request : (Phrasing.request ws name).slotNames = [name] := by
  rw [Phrasing.request, Phrasing.slotNames, List.filterMap_append, List.filterMap_map]
  have hwords : ws.filterMap (Token.slotName? ∘ .word) = [] :=
    List.filterMap_eq_nil_iff.mpr fun _ _ => rfl
  rw [hwords]
  rfl

/-- The words stand for one field each, and the slot for all others. -/
lemma leastAligned_request (hmatch : List.Forall₂ FieldMatches ws fs) {rest : List (List Char)}
    (hrest : rest ≠ []) : LeastAligned (Phrasing.request ws name) (fs ++ rest)
      (fs.map ([·]) ++ [rest]) := by
  induction hmatch with
  | nil => exact leastAligned_slot hrest
  | cons hf _ ih => exact .word hf ih

lemma slotRuns_request (hlength : ws.length = fs.length) (rest : List (List Char)) :
    slotRuns (Phrasing.request ws name) (fs.map ([·]) ++ [rest]) = [rest] := by
  induction ws generalizing fs with
  | nil =>
      obtain rfl := List.length_eq_zero_iff.mp hlength.symm
      rfl
  | cons w ws ih =>
      obtain ⟨f, fs, rfl⟩ := List.exists_cons_of_length_eq_add_one hlength.symm
      exact ih (Nat.succ.inj hlength)

/-- **What a request is about**: the slot takes what follows the words, without the sentence
punctuation around it. -/
theorem captures?_request (hwords : ∀ w ∈ ws, IsField w)
    (hfields : fields utterance.toList = fs ++ fields subject.toList)
    (hmatch : List.Forall₂ FieldMatches ws fs) (hsubject : hasWord subject = true) :
    (Phrasing.request ws name).captures? (Text.normalize utterance) =
      some (.ofList [(name, bareText subject)]) := by
  have hne : Phrasing.request ws name ≠ [] := List.append_ne_nil_of_right_ne_nil _ (by simp)
  have hleast : LeastAligned (Phrasing.request ws name) (fields utterance.toList)
      (fs.map ([·]) ++ [fields subject.toList]) :=
    hfields ▸ leastAligned_request hmatch (fields_ne_nil_of_hasWord hsubject)
  have hcaptured := captures?_of_slotRuns (solid_request hwords name) hne hleast
    (by rw [slotRuns_request hmatch.length_eq, slotNames_request, List.map_singleton]) hsubject
  rw [hcaptured, slotNames_request, List.map_singleton]

/-- A binding whose first phrasing is such a request extracts what the slot's type accepts. -/
lemma Binding.values?_of_request {m : Model} {b : Binding} {ps : List Phrasing}
    (hphrasings : b.matcher.phrasings = Phrasing.request ws name :: ps)
    (hwords : ∀ w ∈ ws, IsField w)
    (hfields : fields utterance.toList = fs ++ fields subject.toList)
    (hmatch : List.Forall₂ FieldMatches ws fs) (hsubject : hasWord subject = true) {value : Json}
    (hvalue : m.types.coerce name (bareText subject) = .ok value) :
    b.values? m (Text.normalize utterance) = some (.ofList [(name, value)]) := by
  refine values?_of_first hphrasings (captures?_request hwords hfields hmatch hsubject) ?_
  rw [InputTypes.coerceAll?_singleton, hvalue]
  rfl

/-- A type of texts that is open accepts every utterance without its punctuation. -/
lemma InputTypes.coerce_bareText {types : InputTypes} {samples : List String}
    (htype : types.find? name = some (.literal name samples)) (hsubject : hasWord subject = true) :
    types.coerce name (bareText subject) = .ok (.str (bareText subject)) :=
  coerce_literal htype rfl (trimBlanks_bareText hsubject)

/-- **An utterance that begins with another word** is no such request. -/
lemma captures?_request_eq_none {w f : List Char} (hwords : ∀ v ∈ w :: ws, IsField v)
    (hfields : fields utterance.toList = f :: fs) (hother : ¬ FieldMatches w f) :
    (Phrasing.request (w :: ws) name).captures? (Text.normalize utterance) = none := by
  refine Phrasing.captures?_of_not_isMatch (Bool.eq_false_iff.mpr fun hmatch => ?_)
  obtain ⟨runs, hruns⟩ := (isMatch_iff_aligned (solid_request hwords name) (List.cons_ne_nil _ _)
    isField_of_mem_fields (toList_normalize utterance)).mp hmatch
  obtain ⟨f', _, _, hcons, _, hf', _⟩ := aligned_word_iff.mp hruns
  rw [hfields] at hcons
  exact hother ((List.cons.inj hcons).1 ▸ hf')

end Requests

/-! ## Integers -/

lemma isAlphanumeric_of_isDigit {c : Char} (h : c.isDigit = true) : isAlphanumeric c = true := by
  have hdigits : ∀ n ∈ List.range' 48 10, isAlphanumeric (Char.ofNat n) = true := by decide
  simp only [Char.isDigit, Bool.and_eq_true, decide_eq_true_eq, ge_iff_le, UInt32.le_iff_toNat_le]
    at h
  have hmem : c.toNat ∈ List.range' 48 10 := by
    rw [List.mem_range'_1]
    exact ⟨h.1, Nat.lt_succ_of_le h.2⟩
  have hchar := hdigits c.toNat hmem
  rwa [Char.ofNat_toNat] at hchar

/-- A character of an integer is no blank and no sentence punctuation. -/
lemma solid_of_mem_integerText {i : ℤ} {c : Char} (h : c ∈ (integerText i).toList) :
    isBlank c = false ∧ isSentencePunctuation c = false := by
  rcases mem_integerText h with rfl | hdigit
  · decide
  · have halphanumeric := isAlphanumeric_of_isDigit hdigit
    refine ⟨isBlank_of_isAlphanumeric halphanumeric, Bool.eq_false_iff.mpr fun hmark => ?_⟩
    exact Bool.noConfusion
      ((isAlphanumeric_of_isSentencePunctuation hmark).symm.trans halphanumeric)

lemma hasWord_integerText (i : ℤ) : hasWord (integerText i) = true := by
  have hdigits : ∃ c ∈ digitChars i.natAbs, c.isDigit = true := by
    obtain ⟨c, hc⟩ := List.exists_mem_of_ne_nil _ (digitChars_ne_nil i.natAbs)
    exact ⟨c, hc, isDigit_of_mem_digitChars hc⟩
  obtain ⟨c, hc, hdigit⟩ := hdigits
  refine List.any_eq_true.mpr ⟨c, ?_, isAlphanumeric_of_isDigit hdigit⟩
  rw [toList_integerText]
  split
  · exact List.mem_cons_of_mem _ hc
  · exact hc

/-- **An integer is understood as it is written.** -/
lemma bareText_integerText (i : ℤ) : bareText (integerText i) = integerText i := by
  have hfield : IsField (integerText i).toList :=
    ⟨integerText_ne_nil i, fun c hc => (solid_of_mem_integerText hc).1⟩
  have hnormal : Text.normalize (integerText i) = integerText i :=
    normalize_of_unfields (List.forall_mem_singleton.mpr hfield) rfl
  exact (bareText_eq_self_iff hnormal).mpr
    ⟨fun c hc => (solid_of_mem_integerText (List.mem_of_head? hc)).2,
      fun c hc => (solid_of_mem_integerText (List.mem_of_getLast? hc)).2⟩

lemma InputTypes.coerce_integerText {types : InputTypes} {name : String}
    (htype : types.find? name = some (.number name)) {i : ℤ} (hmin : int64Min ≤ i)
    (hmax : i ≤ int64Max) : types.coerce name (integerText i) = .ok (.int i) := by
  have htrim : trimBlanks (integerText i) = integerText i := by
    have hbare := trimBlanks_bareText (hasWord_integerText i)
    rwa [bareText_integerText] at hbare
  rw [InputTypes.coerce, htype]
  simp only [InputType.coerce, InputType.number, htrim, spokenNumber?_integerText hmin hmax]

end Dialogue
