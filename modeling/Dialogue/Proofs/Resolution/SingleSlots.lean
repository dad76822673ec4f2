import Dialogue.Proofs.Resolution.Building
import Dialogue.Proofs.Resolution.TrailingPunctuation
import Dialogue.Proofs.Template.Spelling

/-!
# Slots that stand alone

A template may be a slot and nothing else, as when a goal asks for a name.  It takes the whole
utterance, but not the sentence punctuation around it, and then the slot's type decides.  A type of
texts that is not closed accepts everything.  A closed type compares what was taken with its samples
as they were declared, and these are not trimmed.  So a sample that begins or ends with sentence
punctuation cannot be said: of “Yahoo!” only “Yahoo” reaches the type.

* `bareText` — an utterance without the sentence punctuation around it.
* `captures?_of_slotRuns` — what is captured if the same text is said for every slot.
* `captures?_slot`, `result?_slot` — what a slot that stands alone captures, and what becomes of it.
* `bareText_eq_self_iff` — which utterances are taken as they are.
* **`sample_is_understood_iff`** — which samples of a closed type can be said.
-/

namespace Dialogue

open Text

/-! ## Trimming what is trimmed -/

/-- A captured text has no blanks to be trimmed. -/
lemma trimBlanks_of_trimCapture {value : String} (h : trimCapture value.toList = value.toList) :
    trimBlanks value = value := by
  obtain ⟨hfront, hback⟩ := trimBoth_eq_self_iff.mp h
  have hblank : ∀ c, (isBlank c || isSentencePunctuation c) = false → isBlank c = false :=
    fun c hc => (Bool.or_eq_false_iff.mp hc).1
  have hself : trimBoth isBlank value.toList = value.toList :=
    trimBoth_eq_self_iff.mpr
      ⟨fun c hc => hblank c (hfront c hc), fun c hc => hblank c (hback c hc)⟩
  rw [trimBlanks, hself, String.ofList_toList]

/-! ## The utterance without its punctuation -/

/-- The utterance in normal form, without the blanks and the sentence punctuation at its ends. -/
def bareText (utterance : String) : String :=
  String.ofList (trimCapture (Text.normalize utterance).toList)

@[simp] lemma toList_bareText (utterance : String) :
    (bareText utterance).toList = trimCapture (Text.normalize utterance).toList :=
  String.toList_ofList

/-- A letter or a numeral is never trimmed. -/
lemma mem_trimCapture {c : Char} (hc : isAlphanumeric c = true) {cs : List Char} (h : c ∈ cs) :
    c ∈ trimCapture cs := by
  have hkept : (isBlank c || isSentencePunctuation c) = false := by
    refine Bool.or_eq_false_iff.mpr ⟨isBlank_of_isAlphanumeric hc, ?_⟩
    by_contra hmark
    have hnot := isAlphanumeric_of_isSentencePunctuation (by simpa using hmark)
    exact Bool.noConfusion (hnot.symm.trans hc)
  exact mem_trimBoth hkept h

section Utterance

variable {utterance : String} (hword : hasWord utterance = true)
include hword

lemma fields_ne_nil_of_hasWord : fields utterance.toList ≠ [] := by
  intro hnil
  rw [← hasWord_normalize, hasWord, toList_normalize, hnil] at hword
  cases hword

/-- **The utterance without its punctuation is a captured text**, if it holds a word. -/
lemma capturedText_bareText : CapturedText (Text.normalize utterance) (bareText utterance) := by
  refine capturedText_of_run isField_of_mem_fields (toList_normalize utterance)
    List.infix_rfl (fields_ne_nil_of_hasWord hword) ?_ ?_
  · rw [toList_bareText, toList_normalize]
  · rw [toList_bareText]
    rw [← hasWord_normalize, hasWord, List.any_eq_true] at hword
    obtain ⟨c, hc, hletter⟩ := hword
    exact List.ne_nil_of_mem (mem_trimCapture hletter hc)

lemma trimBlanks_bareText : trimBlanks (bareText utterance) = bareText utterance :=
  trimBlanks_of_trimCapture (capturedText_bareText hword).trimmed

end Utterance

/-- A text in normal form is taken as it is, unless there is sentence punctuation at an end. -/
lemma bareText_eq_self_iff {s : String} (hnormal : Text.normalize s = s) : bareText s = s ↔
    (∀ c ∈ s.toList.head?, isSentencePunctuation c = false) ∧
      ∀ c ∈ s.toList.getLast?, isSentencePunctuation c = false := by
  have htext : s.toList = unfields (fields s.toList) := by rw [← toList_normalize, hnormal]
  have hself : bareText s = s ↔ trimCapture s.toList = s.toList := by
    rw [← String.toList_inj, toList_bareText, hnormal]
  have hfields : ∀ f ∈ fields s.toList, IsField f := isField_of_mem_fields
  -- the ends of a text in normal form are the ends of fields, and no blanks
  have hfront : ∀ c ∈ s.toList.head?, isBlank c = false := by
    rw [htext]
    cases hfs : fields s.toList with
    | nil => rintro c ⟨⟩
    | cons f fs =>
        obtain ⟨d, ds, rfl, hd⟩ := (hfields f (hfs ▸ List.mem_cons_self)).exists_cons
        rw [unfields_cons]
        rintro c ⟨⟩
        exact hd
  have hback : ∀ c ∈ s.toList.getLast?, isBlank c = false := by
    rw [htext]
    rcases List.eq_nil_or_concat' (fields s.toList) with hfs | ⟨fs, f, hfs⟩
    · rw [hfs]
      rintro c ⟨⟩
    · obtain ⟨hne, hsolid⟩ := hfields f (by simp [hfs])
      rw [hfs, unfields_concat, List.getLast?_append_of_ne_nil _ hne]
      exact fun c hc => hsolid c (List.mem_of_getLast? hc)
  rw [hself, trimCapture, trimBoth_eq_self_iff]
  refine and_congr (forall₂_congr fun c hc => ?_) (forall₂_congr fun c hc => ?_)
  · rw [hfront c hc, Bool.false_or]
  · rw [hback c hc, Bool.false_or]

/-! ## What a slot takes -/

/-- **What is captured if a text is said for every slot**: the text, without its punctuation. -/
lemma captures?_of_slotRuns {p : Phrasing} (hp : p.Solid) (hne : p ≠ []) {utterance text : String}
    {runs : List (List (List Char))} (hruns : LeastAligned p (fields utterance.toList) runs)
    (hslots : slotRuns p runs = p.slotNames.map fun _ => fields text.toList)
    (hword : hasWord text = true) : p.captures? (Text.normalize utterance) =
      some (.ofList (p.slotNames.map fun name => (name, bareText text))) := by
  have htexts : slotTexts p runs = p.slotNames.map fun _ => (bareText text).toList := by
    rw [slotTexts, hslots, List.map_map, toList_bareText, toList_normalize]
    rfl
  have hfull : [] ∉ slotTexts p runs := by
    rw [htexts, List.mem_map]
    rintro ⟨_, _, hnil⟩
    exact (capturedText_bareText hword).nonempty (String.toList_eq_nil_iff.mp hnil)
  rw [captures?_eq hp hne isField_of_mem_fields (toList_normalize utterance) hruns, if_neg hfull,
    htexts, List.map_map, ← List.map_prod_left_eq_zip]
  simp only [Function.comp_apply, String.ofList_toList]

/-- A slot that stands alone stands for all fields. -/
lemma leastAligned_slot {name : String} {fs : List (List Char)} (hne : fs ≠ []) :
    LeastAligned [.slot name] fs [fs] := by
  have haligned : Aligned [.slot name] fs [fs] := ⟨List.flatten_singleton, .cons hne .nil⟩
  exact haligned.least_of_single le_rfl

/-- **What a slot that stands alone captures**: the utterance without its punctuation. -/
lemma captures?_slot (name : String) {utterance : String} (hword : hasWord utterance = true) :
    Phrasing.captures? [.slot name] (Text.normalize utterance) =
      some (.ofList [(name, bareText utterance)]) := by
  have hsolid : Phrasing.Solid [.slot name] := List.forall_mem_singleton.mpr trivial
  exact captures?_of_slotRuns hsolid (List.cons_ne_nil _ _)
    (leastAligned_slot (fields_ne_nil_of_hasWord hword)) rfl hword

/-- What a type of texts accepts, of a text that cannot be trimmed. -/
lemma InputTypes.coerce_literal {types : InputTypes} {name : String} {t : InputType}
    (htype : types.find? name = some t) {samples : List String} {closed : Bool}
    (hdomain : t.domain = .literal samples closed) {value : String}
    (hvalue : trimBlanks value = value) : types.coerce name value =
      if closed && !samples.any (sameIgnoringCase · value) then
        .error (.notInClosedSet t.name value)
      else .ok (.str value) := by
  rw [coerce, htype]
  dsimp only
  rw [InputType.coerce, hvalue, hdomain]

/-- A single captured text is accepted if the type of its slot accepts it. -/
lemma InputTypes.coerceAll?_singleton (types : InputTypes) (name value : String) :
    types.coerceAll? (.ofList [(name, value)]) =
      (types.coerce name value).toOption.map fun v => .ofList [(name, v)] := by
  rw [coerceAll?]
  have hentries : (Dict.ofList [(name, value)]).entries = [(name, value)] := rfl
  rw [hentries, List.mapM_cons, List.mapM_nil]
  dsimp only
  cases types.coerce name value <;> rfl

/-- **What becomes of a slot that stands alone**, if its type is one of texts: it gets the utterance
without its punctuation, unless the type is closed and that is none of its samples. -/
lemma result?_slot {m : Model} {name : String} {t : InputType}
    (htype : m.types.find? name = some t) {samples : List String} {closed : Bool}
    (hdomain : t.domain = .literal samples closed) {utterance : String}
    (hword : hasWord utterance = true) (scope : Scope) (b : Binding) :
    Attempt.result? m (Text.normalize utterance) ⟨scope, b, [.slot name]⟩ =
      if closed && !samples.any (sameIgnoringCase · (bareText utterance)) then none
      else some ⟨b, scope, .ofList [(name, .str (bareText utterance))]⟩ := by
  rw [Attempt.result?, captures?_slot name hword, Option.bind_some,
    InputTypes.coerceAll?_singleton,
    InputTypes.coerce_literal htype hdomain (trimBlanks_bareText hword)]
  split <;> rfl

/-! ## Samples of closed types -/

/-- Texts that are the same up to the case of letters have the same length. -/
lemma Text.length_of_sameIgnoringCase {a b : String} (h : sameIgnoringCase a b = true) :
    a.toList.length = b.toList.length := by
  have hlength := congrArg List.length (eq_of_beq h)
  rwa [List.length_map, List.length_map] at hlength

/-- What is trimmed off is missing. -/
lemma bareText_eq_self_of_length {s : String} (hnormal : Text.normalize s = s)
    (h : (bareText s).toList.length = s.toList.length) : bareText s = s := by
  have hpiece : (bareText s).toList <:+: s.toList := by
    rw [toList_bareText, hnormal]
    exact infix_trimBoth _
  exact String.toList_inj.mp (hpiece.eq_of_length h)

/-- **Which samples of a closed type can be said.**  Let a slot alone be the only template of a
model that is understood at any time, and let its type be closed.  Say a sample that holds a word
and is in normal form, while no goal is active.  It is understood exactly if, without the sentence
punctuation around it, it is one of the samples, letter case aside; that text is what the slot gets.
So the slot gets the sample itself exactly if there is no sentence punctuation at its ends. -/
theorem sample_is_understood_iff {d : Declarations} {m : Model} (hbuild : d.build = .ok m)
    {template name : String} {handler : Handler}
    (hresponders : d.responders = [⟨[template], handler⟩])
    (hslot : Template.parse template = .ok [.slot name]) {t : InputType}
    (htype : d.types.find? name = some t) {samples : List String}
    (hclosed : t.domain = .literal samples true) {s : String} (hs : s ∈ samples)
    (hword : hasWord s = true) (hnormal : Text.normalize s = s) :
    (∀ r, m.resolve none s = .ok r ↔
      (∃ sample ∈ samples, sameIgnoringCase sample (bareText s) = true) ∧
        r = ⟨⟨⟨template, [[.slot name]]⟩, handler⟩, .global,
          .ofList [(name, .str (bareText s))]⟩) ∧
    ((∃ r v, m.resolve none s = .ok r ∧ r.values.find? name = some (.str v) ∧
        sameIgnoringCase v s = true) ↔
      (∀ c ∈ s.toList.head?, isSentencePunctuation c = false) ∧
        ∀ c ∈ s.toList.getLast?, isSentencePunctuation c = false) := by
  obtain ⟨htypes, -, -⟩ := Declarations.build_eq_ok_iff.mp hbuild
  have hglobals :=
    Declarations.globals_of_single hbuild hresponders hslot (List.cons_ne_nil _ _) rfl
  have hresolve : (m.resolve none s).toOption =
      Attempt.result? m (Text.normalize s)
        ⟨.global, ⟨⟨template, [[.slot name]]⟩, handler⟩, [.slot name]⟩ := by
    rw [toOption_resolve, hasWord_normalize, if_pos hword, Model.attempts, hglobals]
    exact List.findSome?_singleton
  rw [result?_slot (htypes ▸ htype) hclosed hword, Bool.true_and] at hresolve
  have hok : ∀ r, m.resolve none s = .ok r ↔
      (∃ sample ∈ samples, sameIgnoringCase sample (bareText s) = true) ∧
        r = ⟨⟨⟨template, [[.slot name]]⟩, handler⟩, .global,
          .ofList [(name, .str (bareText s))]⟩ := by
    intro r
    rw [eq_ok_iff_toOption, hresolve, ← List.any_eq_true]
    cases samples.any (sameIgnoringCase · (bareText s)) <;> simp [eq_comm]
  refine ⟨hok, ?_⟩
  rw [← bareText_eq_self_iff hnormal]
  constructor
  · rintro ⟨r, v, hr, hv, hsame⟩
    obtain ⟨_, rfl⟩ := (hok r).mp hr
    obtain rfl : bareText s = v := by simpa [Dict.ofList] using hv
    exact bareText_eq_self_of_length hnormal (length_of_sameIgnoringCase hsame)
  · intro hbare
    have hsame : sameIgnoringCase s s = true := beq_self_eq_true _
    refine ⟨_, s, (hok _).mpr ⟨⟨s, hs, ?_⟩, rfl⟩, ?_, hsame⟩
    · rwa [hbare]
    · rw [hbare]
      simp [Dict.ofList]

/-- A guide to two sites, which understands their names. -/
def guide : Declarations :=
  Declarations.empty .unlimited 8 |>.addType (InputType.literal "site" ["Ask", "Yahoo!"]).closed
    |>.respondTo ["[[site]]"] (.immediate (Act.say "[[site]]"))

/-- The guide when it is built. -/
def guideModel : Model where
  types := InputTypes.add .empty ⟨"site", .literal ["Ask", "Yahoo!"] true⟩
  globals := [⟨⟨"[[site]]", [[.slot "site"]]⟩, .immediate (Act.say "[[site]]")⟩]
  goals := []

lemma parse_site : Template.parse "[[site]]" = .ok [.slot "site"] :=
  @Template.parse_spell [.slot "site"] (by decide)

lemma build_guide : guide.build = .ok guideModel :=
  Declarations.build_of_spelledBy (d := guide) (t := ⟨[[[.slot "site"]]], []⟩) (by decide)

/-- “Ask” is understood, and the guide knows which site is meant. -/
theorem ask_is_understood :
    guide.build = .ok guideModel ∧
      ∃ r v, guideModel.resolve none "Ask" = .ok r ∧ r.values.find? "site" = some (.str v) ∧
        sameIgnoringCase v "Ask" = true := by
  have hends : (∀ c ∈ "Ask".toList.head?, isSentencePunctuation c = false) ∧
      ∀ c ∈ "Ask".toList.getLast?, isSentencePunctuation c = false := by
    have hfirst : isSentencePunctuation 'A' = false := by decide
    have hlast : isSentencePunctuation 'k' = false := by decide
    simpa using ⟨hfirst, hlast⟩
  have htype : guide.types.find? "site" = some ⟨"site", .literal ["Ask", "Yahoo!"] true⟩ := by
    decide
  obtain ⟨_, hask⟩ := sample_is_understood_iff build_guide rfl parse_site htype rfl (s := "Ask")
    (by decide) (by decide) (by decide)
  exact ⟨build_guide, hask.mpr hends⟩

/-- “Yahoo!” is a sample of a closed type, and the guide does not understand it. -/
theorem yahoo_is_not_understood :
    guide.build = .ok guideModel ∧ Template.parse "[[site]]" = .ok [.slot "site"] ∧
      guide.types.find? "site" = some ⟨"site", .literal ["Ask", "Yahoo!"] true⟩ ∧
      hasWord "Yahoo!" = true ∧ Text.normalize "Yahoo!" = "Yahoo!" ∧
      ∃ e, guideModel.resolve none "Yahoo!" = .error e := by
  have hnone : (guideModel.resolve none "Yahoo!").toOption.map (·.values.entries) = none := by
    decide
  exact ⟨build_guide, parse_site, by decide, by decide, by decide,
    exists_eq_error_iff_toOption.mpr (Option.map_eq_none_iff.mp hnone)⟩

end Dialogue
