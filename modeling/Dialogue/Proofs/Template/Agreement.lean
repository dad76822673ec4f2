import Dialogue.Proofs.Template.Captures

/-!
# When matching fills the slots

A template can be asked whether it matches an utterance, and what it captures from it.  What is
captured was matched.  The other way round, something may be matched of which nothing is captured:
the least alignment may give a slot a run of sentence punctuation, and nothing of it is left when it
is trimmed.  This cannot happen in an utterance in which no punctuation stands alone.

* `HoldsText` — a run of which trimming leaves something.
* `Filled` — an alignment in which the run of every slot is of that kind.
* `isSome_captures?_iff` — what it takes for a phrasing to capture something.
* **`matching_fills_slots_iff`** — when a template captures something from what it matches.
-/

namespace Dialogue

open Text

/-! ## Runs that fill a slot -/

/-- Some character in the fields is no sentence punctuation. -/
def HoldsText (run : List (List Char)) : Prop :=
  ∃ f ∈ run, ∃ c ∈ f, isSentencePunctuation c = false

lemma not_holdsText_iff {run : List (List Char)} :
    ¬ HoldsText run ↔ ∀ f ∈ run, ∀ c ∈ f, isSentencePunctuation c = true := by
  simp [HoldsText]

/-- Trimming leaves something of these runs, and of no others. -/
lemma trimCapture_unfields_eq_nil_iff {run : List (List Char)} (hrun : ∀ f ∈ run, IsField f) :
    trimCapture (unfields run) = [] ↔ ¬ HoldsText run := by
  rw [trimCapture, trimBoth_eq_nil_iff, not_holdsText_iff]
  constructor
  · intro h f hf c hc
    have hblank : isBlank c = false := (hrun f hf).2 c hc
    have hmem : c ∈ unfields run := (mem_unfields hblank).mpr (List.mem_flatten.mpr ⟨f, hf, hc⟩)
    simpa [hblank] using h c hmem
  · intro h c hc
    by_cases hblank : isBlank c = true
    · rw [hblank, Bool.true_or]
    · have hsolid : isBlank c = false := by simpa using hblank
      obtain ⟨f, hf, hcf⟩ := List.mem_flatten.mp ((mem_unfields hsolid).mp hc)
      simpa [hsolid] using h f hf c hcf

/-- In the alignment, every slot has a run of which trimming leaves something. -/
def Filled (p : Phrasing) (runs : List (List (List Char))) : Prop :=
  ∀ run ∈ slotRuns p runs, HoldsText run

lemma not_filled_iff {p : Phrasing} {runs : List (List (List Char))} : ¬ Filled p runs ↔
    ∃ run ∈ slotRuns p runs, ∀ f ∈ run, ∀ c ∈ f, isSentencePunctuation c = true := by
  simp only [Filled, ← not_holdsText_iff, not_forall, exists_prop]

section Aligned

variable {p : Phrasing} {fs : List (List Char)} {runs : List (List (List Char))}

/-- The run of a slot is a part of the utterance, and not empty. -/
lemma Aligned.run_of_slot (h : Aligned p fs runs) {run : List (List Char)}
    (hrun : run ∈ slotRuns p runs) : run ⊆ fs ∧ run ≠ [] := by
  obtain ⟨hmem, hne⟩ := mem_of_mem_slotRuns h.fits hrun
  refine ⟨fun f hf => ?_, hne⟩
  rw [← h.flatten]
  exact List.mem_flatten.mpr ⟨run, hmem, hf⟩

lemma Aligned.nil_mem_slotTexts_iff (h : Aligned p fs runs) (hfs : ∀ f ∈ fs, IsField f) :
    [] ∈ slotTexts p runs ↔ ¬ Filled p runs := by
  rw [slotTexts, List.mem_map, not_filled_iff]
  refine exists_congr fun run => and_congr_right fun hrun => ?_
  rw [← not_holdsText_iff]
  exact trimCapture_unfields_eq_nil_iff fun f hf => hfs f ((h.run_of_slot hrun).1 hf)

/-- If no punctuation stands alone, all slots are filled. -/
lemma Aligned.filled (h : Aligned p fs runs) (htext : ∀ f ∈ fs, HoldsText [f]) :
    Filled p runs := by
  intro run hrun
  obtain ⟨hsub, hne⟩ := h.run_of_slot hrun
  obtain ⟨f, hf⟩ := List.exists_mem_of_ne_nil run hne
  obtain ⟨g, hg, hletter⟩ := htext f (hsub hf)
  obtain rfl := List.mem_singleton.mp hg
  exact ⟨g, hf, hletter⟩

/-- What can be aligned has a least alignment. -/
lemma Aligned.exists_least (h : Aligned p fs runs) (hp : p.Solid) (hne : p ≠ [])
    (hfs : ∀ f ∈ fs, IsField f) : ∃ runs, LeastAligned p fs runs := by
  have hdecides := Pattern.decides_spans? hp hne hfs
  obtain ⟨spans, hspans⟩ := Option.ne_none_iff_exists'.mp
    fun hnone => hdecides.not_aligned hnone runs h
  obtain ⟨least, hleast, -⟩ := hdecides.exists_least hspans
  exact ⟨least, hleast⟩

end Aligned

/-! ## What is captured -/

section Captures

variable {p : Phrasing} (hp : p.Solid) (hne : p ≠ []) (utterance : String)
include hp hne

lemma isMatch_normalize_iff : p.isMatch (Text.normalize utterance) = true ↔
    ∃ runs, Aligned p (fields utterance.toList) runs :=
  isMatch_iff_aligned hp hne isField_of_mem_fields (toList_normalize utterance)

/-- **When a phrasing captures something**: if it has a least alignment, and in it all slots are
filled. -/
lemma isSome_captures?_iff : (p.captures? (Text.normalize utterance)).isSome ↔
    ∃ runs, LeastAligned p (fields utterance.toList) runs ∧ Filled p runs := by
  have hfs : ∀ f ∈ fields utterance.toList, IsField f := isField_of_mem_fields
  have hfilled : ∀ {runs}, LeastAligned p (fields utterance.toList) runs →
      ([] ∉ slotTexts p runs ↔ Filled p runs) := by
    intro runs hruns
    rw [hruns.toAligned.nil_mem_slotTexts_iff hfs, not_not]
  simp only [Option.isSome_iff_exists,
    captures?_eq_some_iff hp hne hfs (toList_normalize utterance)]
  constructor
  · rintro ⟨_, runs, hruns, hfull, -⟩
    exact ⟨runs, hruns, (hfilled hruns).mp hfull⟩
  · rintro ⟨runs, hruns, h⟩
    exact ⟨_, runs, hruns, (hfilled hruns).mpr h, rfl⟩

end Captures

namespace Matcher

variable {m : Matcher}

/-- Something is extracted if there is a candidate. -/
lemma isSome_extract?_iff (utterance : String) :
    (m.extract? utterance).isSome ↔ m.candidates (Text.normalize utterance) ≠ [] := by
  rw [extract?, List.isSome_head?]

/-- There is a candidate if some phrasing captures something. -/
lemma candidates_ne_nil_iff (normalized : String) : m.candidates normalized ≠ [] ↔
    ∃ p ∈ m.phrasings, (p.captures? normalized).isSome := by
  rw [candidates, ne_eq, List.filterMap_eq_nil_iff]
  push Not
  simp only [Option.isSome_iff_ne_none]

section Compiled

variable {patterns : PatternBuilder} {types : InputTypes} {limit : ℕ} {template : String}
  (hm : compile patterns types limit template = .ok m) (utterance : String)
include hm

/-- A template matches what one of its phrasings can be aligned with. -/
lemma isMatch_iff : m.isMatch utterance = true ↔
    ∃ p ∈ m.phrasings, ∃ runs, Aligned p (fields utterance.toList) runs := by
  rw [isMatch, List.any_eq_true]
  refine exists_congr fun p => and_congr_right fun hmem => ?_
  obtain ⟨hne, hp⟩ := solid_compile hm p hmem
  exact isMatch_normalize_iff hp hne utterance

/-- Something is extracted if one of the phrasings has a least alignment in which all slots are
filled. -/
lemma isSome_extract?_iff_filled : (m.extract? utterance).isSome ↔
    ∃ p ∈ m.phrasings, ∃ runs, LeastAligned p (fields utterance.toList) runs ∧ Filled p runs := by
  rw [isSome_extract?_iff, candidates_ne_nil_iff]
  refine exists_congr fun p => and_congr_right fun hmem => ?_
  obtain ⟨hne, hp⟩ := solid_compile hm p hmem
  exact isSome_captures?_iff hp hne utterance

end Compiled

end Matcher

/-- **When a template captures something from what it matches.**  Take a compiled template and any
utterance.  The template matches exactly if one of its phrasings can be aligned with the fields of
the utterance.  There are candidates exactly if something is extracted, and then the template
matches.  It matches and nothing is extracted exactly if there is such a phrasing, but each of them
has a slot for which its least alignment has nothing but sentence punctuation.  So matching and
extracting agree about all other utterances; in particular if every field has a character that is no
sentence punctuation. -/
theorem matching_fills_slots_iff {patterns : PatternBuilder} {types : InputTypes} {limit : ℕ}
    {template : String} {m : Matcher} (hm : Matcher.compile patterns types limit template = .ok m)
    (utterance : String) :
    let fs := fields utterance.toList
    (m.isMatch utterance = true ↔ ∃ p ∈ m.phrasings, ∃ runs, Aligned p fs runs) ∧
    (m.candidates (Text.normalize utterance) ≠ [] ↔ (m.extract? utterance).isSome) ∧
    ((m.extract? utterance).isSome → m.isMatch utterance = true) ∧
    (m.isMatch utterance = true ∧ m.extract? utterance = none ↔
      (∃ p ∈ m.phrasings, ∃ runs, Aligned p fs runs) ∧
        ∀ p ∈ m.phrasings, ∀ runs, LeastAligned p fs runs →
          ∃ run ∈ slotRuns p runs, ∀ f ∈ run, ∀ c ∈ f, isSentencePunctuation c = true) ∧
    ((∀ f ∈ fs, ∃ c ∈ f, isSentencePunctuation c = false) →
      (m.isMatch utterance = true ↔ (m.extract? utterance).isSome)) := by
  intro fs
  have hmatch := Matcher.isMatch_iff hm utterance
  have hextract := Matcher.isSome_extract?_iff_filled hm utterance
  have hsound : (m.extract? utterance).isSome → m.isMatch utterance = true := by
    intro hsome
    obtain ⟨p, hp, runs, hruns, -⟩ := hextract.mp hsome
    exact hmatch.mpr ⟨p, hp, runs, hruns.toAligned⟩
  refine ⟨hmatch, (Matcher.isSome_extract?_iff utterance).symm, hsound, ?gap,
    fun htext => ⟨fun h => ?complete, hsound⟩⟩
  case gap =>
    rw [hmatch, ← Option.not_isSome_iff_eq_none, hextract]
    refine and_congr_right fun _ => ?_
    simp only [← not_filled_iff, not_exists, not_and, fs]
  case complete =>
    obtain ⟨p, hp, runs, haligned⟩ := hmatch.mp h
    obtain ⟨hne, hsolid⟩ := Matcher.solid_compile hm p hp
    obtain ⟨least, hleast⟩ := haligned.exists_least hsolid hne isField_of_mem_fields
    refine hextract.mpr ⟨p, hp, least, hleast, hleast.toAligned.filled fun f hf => ?_⟩
    exact ⟨f, List.mem_singleton_self f, htext f hf⟩

/-- A template that is a slot for a name. -/
def nameMatcher : Matcher := ⟨"[[name]]", [[.slot "name"]]⟩

lemma compile_nameMatcher :
    Matcher.compile .unlimited (InputTypes.add .empty (.literal "name" [])) 8 "[[name]]" =
      .ok nameMatcher :=
  Matcher.compile_of_single (@Template.parse_spell [.slot "name"] (by decide))
    (List.cons_ne_nil _ _) rfl (by decide)

/-- “C++.” is matched, and taken for a name. -/
theorem name_is_matched_and_captured :
    Matcher.compile .unlimited (InputTypes.add .empty (.literal "name" [])) 8 "[[name]]" =
        .ok nameMatcher ∧
      nameMatcher.isMatch "C++." = true ∧ (nameMatcher.extract? "C++.").isSome := by
  obtain ⟨-, -, -, -, hagree⟩ := matching_fills_slots_iff compile_nameMatcher "C++."
  have hmatch : nameMatcher.isMatch "C++." = true := by decide
  have hfields : fields "C++.".toList = ["C++.".toList] := by decide
  have htext : ∀ f ∈ fields "C++.".toList, ∃ c ∈ f, isSentencePunctuation c = false := by
    rw [hfields]
    exact List.forall_mem_singleton.mpr ⟨'C', List.mem_cons_self, by decide⟩
  exact ⟨compile_nameMatcher, hmatch, (hagree htext).mp hmatch⟩

/-- “?!” matches a slot for a name, and nothing is extracted from it. -/
theorem punctuation_is_matched_and_not_captured :
    Matcher.compile .unlimited (InputTypes.add .empty (.literal "name" [])) 8 "[[name]]" =
        .ok nameMatcher ∧
      nameMatcher.isMatch "?!" = true ∧ (nameMatcher.extract? "?!").isSome = false ∧
      nameMatcher.candidates (Text.normalize "?!") = [] := by
  have hnone : nameMatcher.candidates (Text.normalize "?!") = [] :=
    List.isEmpty_iff.mp (by decide)
  refine ⟨compile_nameMatcher, by decide, ?_, hnone⟩
  rw [Matcher.extract?, hnone]
  rfl

end Dialogue
