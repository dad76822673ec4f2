import Dialogue.Proofs.Template.Alignment
import Dialogue.Proofs.Template.Spelling
import Dialogue.Proofs.Text.Trimming
import Dialogue.Proofs.Dict

/-!
# What slots capture

A phrasing captures the texts of its slots in the least alignment, each trimmed, unless trimming
leaves nothing of one of them.  Since a run is a stretch of the utterance's fields, a captured text
is a piece of the normalized utterance, and it is in normal form itself.

* `slotTexts` — the trimmed texts of the slots in an alignment.
* `captures?_eq`, `captures?_eq_some_iff` — what a phrasing captures, in terms of the least
  alignment.
* `CapturedText` — what is known of every captured text.
-/

namespace Dialogue

open Text

/-- The texts of the slots in an alignment, trimmed. -/
def slotTexts (p : Phrasing) (runs : List (List (List Char))) : List (List Char) :=
  (slotRuns p runs).map fun run => trimCapture (unfields run)

/-! ## From spans to captures -/

lemma captureSlots_eq : ∀ {names : List String} {spans : List (List Char)} {slots : Dict String},
    names.length = spans.length →
      captureSlots names spans slots =
        if [] ∈ spans.map trimCapture then none
        else some ((names.zip ((spans.map trimCapture).map String.ofList)).foldl
          (fun d e => d.insert e.1 e.2) slots)
  | [], [], slots, _ => rfl
  | name :: names, span :: spans, slots, h => by
      rw [captureSlots, List.map_cons]
      by_cases hnil : trimCapture span = []
      · rw [hnil, if_pos List.mem_cons_self]
        rfl
      · have hmem : [] ∈ trimCapture span :: spans.map trimCapture ↔
            [] ∈ spans.map trimCapture := by
          rw [List.mem_cons, or_iff_right (Ne.symm hnil)]
        have hlength : names.length = spans.length := Nat.succ.inj h
        rw [if_neg (by simpa using hnil), captureSlots_eq hlength]
        simp only [hmem]
        rfl

/-- **What a phrasing captures** in terms of the least alignment. -/
theorem captures?_eq {p : Phrasing} (hp : p.Solid) (hne : p ≠ []) {normalized : String}
    {fs : List (List Char)} (hfs : ∀ f ∈ fs, IsField f)
    (hnormalized : normalized.toList = unfields fs) {runs : List (List (List Char))}
    (hruns : LeastAligned p fs runs) :
    p.captures? normalized =
      if [] ∈ slotTexts p runs then none
      else some (.ofList (p.slotNames.zip ((slotTexts p runs).map String.ofList))) := by
  have hspans := (Pattern.decides_spans? hp hne hfs).eq_some hruns
  rw [← hnormalized] at hspans
  have htexts : ((slotRuns p runs).map unfields).map trimCapture = slotTexts p runs := by
    rw [slotTexts, List.map_map]
    rfl
  rw [Phrasing.captures?, hspans, Option.bind_eq_bind, Option.bind_some, captureSlots_eq, htexts]
  · rfl
  · rw [List.length_map, length_slotNames hruns.fits]

/-- **When a phrasing captures something, and what**: it has a least alignment, trimming leaves
something of the text of every slot, and these texts are captured. -/
lemma captures?_eq_some_iff {p : Phrasing} (hp : p.Solid) (hne : p ≠ []) {normalized : String}
    {fs : List (List Char)} (hfs : ∀ f ∈ fs, IsField f)
    (hnormalized : normalized.toList = unfields fs) {captured : Dict String} :
    p.captures? normalized = some captured ↔
      ∃ runs, LeastAligned p fs runs ∧ [] ∉ slotTexts p runs ∧
        captured = .ofList (p.slotNames.zip ((slotTexts p runs).map String.ofList)) := by
  constructor
  · intro h
    obtain ⟨spans, hspans, _⟩ := Option.bind_eq_some_iff.mp h
    rw [hnormalized] at hspans
    obtain ⟨runs, hruns, _⟩ := (Pattern.decides_spans? hp hne hfs).exists_least hspans
    rw [captures?_eq hp hne hfs hnormalized hruns] at h
    split at h
    · cases h
    · rename_i hfull
      exact ⟨runs, hruns, hfull, (Option.some.inj h).symm⟩
  · rintro ⟨runs, hruns, hfull, rfl⟩
    rw [captures?_eq hp hne hfs hnormalized hruns, if_neg hfull]

/-! ## What captured texts look like -/

/-- A captured text is not empty, is in normal form, cannot be trimmed any more, and is a piece of
the normalized utterance. -/
structure CapturedText (normalized value : String) : Prop where
  nonempty : value ≠ ""
  normal : Text.normalize value = value
  trimmed : trimCapture value.toList = value.toList
  piece : value.toList <:+: normalized.toList

lemma mem_of_mem_slotRuns {p : Phrasing} {runs : List (List (List Char))}
    (h : List.Forall₂ Token.Fits p runs) {run : List (List Char)} (hrun : run ∈ slotRuns p runs) :
    run ∈ runs ∧ run ≠ [] := by
  induction h with
  | nil => cases hrun
  | @cons t first p runs hfits _ ih =>
      cases t with
      | word w =>
          obtain ⟨hmem, hne⟩ := ih hrun
          exact ⟨List.mem_cons_of_mem _ hmem, hne⟩
      | slot name =>
          rcases List.mem_cons.mp hrun with rfl | hrun
          · exact ⟨List.mem_cons_self, hfits⟩
          · obtain ⟨hmem, hne⟩ := ih hrun
            exact ⟨List.mem_cons_of_mem _ hmem, hne⟩

/-- Trimming the text of a stretch of fields gives a captured text, if anything is left. -/
lemma capturedText_of_run {normalized : String} {fs : List (List Char)}
    (hfs : ∀ f ∈ fs, IsField f) (hnormalized : normalized.toList = unfields fs)
    {run : List (List Char)} (hrun : run <:+: fs) (hne : run ≠ []) {value : String}
    (hvalue : value.toList = trimCapture (unfields run)) (hsome : value.toList ≠ []) :
    CapturedText normalized value where
  nonempty := by
    rintro rfl
    exact hsome rfl
  normal := by
    obtain ⟨vs, hvs, htrim⟩ := exists_fields_of_trimBoth
      (p := fun c => isBlank c || isSentencePunctuation c) (by simp)
      fun f hf => hfs f (hrun.subset hf)
    rw [Text.normalize, hvalue, trimCapture, htrim, fields_unfields hvs, ← htrim, ← trimCapture,
      ← hvalue, String.ofList_toList]
  trimmed := by rw [hvalue, trimCapture, trimCapture, trimBoth_trimBoth]
  piece := by
    rw [hvalue, hnormalized]
    exact (infix_trimBoth _).trans (infix_unfields hrun hne)

/-- **Every captured text** is a trimmed piece of the utterance, in normal form. -/
theorem capturedText {p : Phrasing} (hp : p.Solid) (hne : p ≠ []) {normalized : String}
    {fs : List (List Char)} (hfs : ∀ f ∈ fs, IsField f)
    (hnormalized : normalized.toList = unfields fs) {captured : Dict String}
    (hcaptured : p.captures? normalized = some captured) {name value : String}
    (hvalue : captured.find? name = some value) : CapturedText normalized value := by
  obtain ⟨runs, hruns, hfull, rfl⟩ := (captures?_eq_some_iff hp hne hfs hnormalized).mp hcaptured
  have hpair := Dict.mem_of_find?_ofList hvalue
  obtain ⟨text, htext, rfl⟩ := List.mem_map.mp (List.of_mem_zip hpair).2
  obtain ⟨run, hrun, rfl⟩ := List.mem_map.mp htext
  obtain ⟨hmem, hrunne⟩ := mem_of_mem_slotRuns hruns.fits hrun
  have hpiece : run <:+: fs := hruns.flatten ▸ List.infix_of_mem_flatten hmem
  refine capturedText_of_run hfs hnormalized hpiece hrunne String.toList_ofList ?_
  rw [String.toList_ofList]
  intro hnil
  exact hfull (hnil ▸ htext)

/-! ## Matching refines alignment -/

lemma isMatch_eq (p : Phrasing) (normalized : String) :
    p.isMatch normalized = (Pattern.spans? (Pattern.ofPhrasing p) normalized.toList).isSome := by
  rw [Phrasing.isMatch, Pattern.spans?, Option.isSome_map]

/-- A phrasing captures nothing from what it does not match. -/
lemma Phrasing.captures?_of_not_isMatch {p : Phrasing} {normalized : String}
    (h : p.isMatch normalized = false) : p.captures? normalized = none := by
  rw [isMatch_eq, Option.isSome_eq_false_iff, Option.isNone_iff_eq_none] at h
  rw [captures?, h]
  rfl

/-- A phrasing matches what it can be aligned with. -/
lemma isMatch_iff_aligned {p : Phrasing} (hp : p.Solid) (hne : p ≠ []) {normalized : String}
    {fs : List (List Char)} (hfs : ∀ f ∈ fs, IsField f)
    (hnormalized : normalized.toList = unfields fs) :
    p.isMatch normalized = true ↔ ∃ runs, Aligned p fs runs := by
  have hdecides := Pattern.decides_spans? hp hne hfs
  rw [isMatch_eq, hnormalized]
  cases hfound : Pattern.spans? (Pattern.ofPhrasing p) (unfields fs) with
  | none => simpa using hdecides.not_aligned hfound
  | some found =>
      obtain ⟨runs, hruns, _⟩ := hdecides.exists_least hfound
      exact ⟨fun _ => ⟨runs, hruns.toAligned⟩, fun _ => rfl⟩

/-- **Matching is aligning.**  A phrasing of a compiled template matches an utterance exactly if the
fields of the utterance can be aligned with its tokens; the stretches that its slots take are those
of the least alignment; and what it captures are these stretches, trimmed, unless one of them comes
to nothing. -/
theorem match_refines_alignment {patterns : PatternBuilder} {types : InputTypes} {limit : ℕ}
    {template : String} {m : Matcher} (hm : Matcher.compile patterns types limit template = .ok m)
    {p : Phrasing} (hp : p ∈ m.phrasings) (utterance : String) :
    let normalized := Text.normalize utterance
    let fs := fields normalized.toList
    (p.isMatch normalized = true ↔ ∃ runs, Aligned p fs runs) ∧
    (∀ spans, Pattern.spans? (Pattern.ofPhrasing p) normalized.toList = some spans ↔
      ∃ runs, LeastAligned p fs runs ∧ spans = (slotRuns p runs).map unfields) ∧
    (p.slotNames.Nodup → ∀ runs, LeastAligned p fs runs →
      (p.captures? normalized = none ↔ [] ∈ slotTexts p runs) ∧
      ∀ captured, p.captures? normalized = some captured → ∀ name value,
        captured.find? name = some value ↔
          (name, value) ∈ p.slotNames.zip ((slotTexts p runs).map String.ofList)) ∧
    ∀ captured, p.captures? normalized = some captured → ∀ name value,
      captured.find? name = some value → CapturedText normalized value := by
  intro normalized fs
  obtain ⟨hne, hsolid⟩ := Matcher.solid_compile hm p hp
  have hfs : ∀ f ∈ fs, IsField f := isField_of_mem_fields
  have hnormalized : normalized.toList = unfields fs := by
    rw [toList_normalize, ← fields_normalize]
  have hdecides := Pattern.decides_spans? hsolid hne hfs
  rw [← hnormalized] at hdecides
  refine ⟨isMatch_iff_aligned hsolid hne hfs hnormalized, fun spans => ?_, fun hnodup runs hruns =>
    ?_, fun captured hcaptured name value => capturedText hsolid hne hfs hnormalized hcaptured⟩
  · constructor
    · exact hdecides.exists_least
    · rintro ⟨runs, hruns, rfl⟩
      exact hdecides.eq_some hruns
  · rw [captures?_eq hsolid hne hfs hnormalized hruns]
    have hlength : p.slotNames.length = ((slotTexts p runs).map String.ofList).length := by
      rw [List.length_map, slotTexts, List.length_map, length_slotNames hruns.fits]
    have hnames : ((p.slotNames.zip ((slotTexts p runs).map String.ofList)).map (·.1)).Nodup := by
      rwa [List.map_fst_zip hlength.le]
    refine ⟨by simp, fun captured hcaptured name value => ?_⟩
    split at hcaptured
    · cases hcaptured
    · obtain rfl := Option.some.inj hcaptured
      exact Dict.find?_ofList_eq_some_iff hnames

/-- A word and a slot, compiled. -/
lemma compile_call :
    Matcher.compile .unlimited (InputTypes.add .empty (.literal "name" [])) 8 "call [[name]]" =
      .ok ⟨"call [[name]]", [[.word "call".toList, .slot "name"]]⟩ :=
  Matcher.compile_of_single (@Template.parse_spell [.word "call".toList, .slot "name"] (by decide))
    (List.cons_ne_nil _ _) rfl (by decide)

/-- “Call, Bob please!” is a call of “Bob please”: the comma is attached to the word, and the
exclamation mark is trimmed. -/
theorem call_bob_aligned :
    let p : Phrasing := [.word "call".toList, .slot "name"]
    let normalized := Text.normalize "Call,  Bob please!"
    (∃ runs, Aligned p (fields normalized.toList) runs) ∧
      (p.captures? normalized).map Dict.entries = some [("name", "Bob please")] ∧
      CapturedText normalized "Bob please" := by
  obtain ⟨hmatch, _, _, hcaptured⟩ :=
    match_refines_alignment compile_call List.mem_cons_self "Call,  Bob please!"
  have hentries : (Phrasing.captures? [.word "call".toList, .slot "name"]
      (Text.normalize "Call,  Bob please!")).map Dict.entries = some [("name", "Bob please")] := by
    decide
  obtain ⟨captured, hsome, hcapturedEntries⟩ := Option.map_eq_some_iff.mp hentries
  refine ⟨hmatch.mp (by decide), hentries, hcaptured captured hsome "name" _ ?_⟩
  rw [Dict.find?, hcapturedEntries]
  rfl

end Dialogue
