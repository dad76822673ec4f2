import Dialogue.Proofs.Template.Captures
import Dialogue.Proofs.Resolution.Compiled
import Dialogue.Proofs.Resolution.FinalSlots
import Dialogue.Proofs.Resolution.SpelledModels

/-!
# Slots that stand in a phrasing more than once

Nothing keeps the name of a slot from standing in a template twice.  The alignment then cuts out a
text for each occurrence, but the captures are a dictionary by name, so a later occurrence takes the
place of an earlier one before the input types are asked.  What is validated are the last
occurrences of the names, and they alone: `add [[n]] and [[n]]` understands “add banana and 3”, not
“add 3 and banana”.  In a phrasing whose slots have different names every occurrence is the last
one.

* `Phrasing.occurrences` — the captured texts, one for each occurrence of a slot.
* `Attempt.Validated` — an alignment of an attempt in which the last occurrences are accepted.
* `accepted_iff_validated` — the attempts that are accepted are those.
* **`last_occurrences_are_validated`** — understanding, in terms of occurrences.
-/

namespace Dialogue

open Text

/-! ## Occurrences -/

/-- The names of slots with the texts that an alignment gives them, one for each occurrence, from
left to right. -/
def Phrasing.occurrences (p : Phrasing) (runs : List (List (List Char))) : List (String × String) :=
  p.slotNames.zip ((slotTexts p runs).map String.ofList)

lemma map_fst_occurrences {p : Phrasing} {fs : List (List Char)} {runs : List (List (List Char))}
    (h : Aligned p fs runs) : (p.occurrences runs).map (·.1) = p.slotNames := by
  refine List.map_fst_zip ?_
  rw [List.length_map, slotTexts, List.length_map, length_slotNames h.fits]

/-- In the alignment, which gives every slot some text, the last occurrences of all names are
accepted as `values`, and there are no other values. -/
structure Attempt.Validated (m : Model) (normalized : String) (a : Attempt)
    (runs : List (List (List Char))) (values : Dict Json) : Prop where
  aligned : LeastAligned a.phrasing (fields normalized.toList) runs
  full : [] ∉ slotTexts a.phrasing runs
  accepted : ∀ before name text after,
    a.phrasing.occurrences runs = before ++ (name, text) :: after → name ∉ after.map (·.1) →
      ∃ v, m.types.coerce name text = .ok v ∧ values.find? name = some v
  others : ∀ name, name ∉ a.phrasing.slotNames → values.find? name = none

/-- Where no name occurs twice, all occurrences are accepted. -/
lemma Attempt.Validated.accepted_of_nodup {m : Model} {normalized : String} {a : Attempt}
    {runs : List (List (List Char))} {values : Dict Json} (h : a.Validated m normalized runs values)
    (hnodup : a.phrasing.slotNames.Nodup) {name text : String}
    (hmem : (name, text) ∈ a.phrasing.occurrences runs) :
    ∃ v, m.types.coerce name text = .ok v ∧ values.find? name = some v := by
  rw [← map_fst_occurrences h.aligned.toAligned] at hnodup
  obtain ⟨before, after, hsplit, hlast⟩ :=
    Dict.lastValue?_eq_some_iff_append.mp ((Dict.lastValue?_eq_some_iff hnodup).mpr hmem)
  exact h.accepted before name text after hsplit hlast

/-! ## What is validated -/

/-- The entries that count by name are accepted exactly if the dictionary of all entries is. -/
lemma InputTypes.accepts_ofList_iff {types : InputTypes} {es : List (String × String)}
    {values : Dict Json} :
    types.Accepts (.ofList es) values ↔
      (∀ before name text after, es = before ++ (name, text) :: after → name ∉ after.map (·.1) →
        ∃ v, types.coerce name text = .ok v ∧ values.find? name = some v) ∧
      ∀ name, name ∉ es.map (·.1) → values.find? name = none := by
  simp only [Accepts, Dict.find?_ofList, Dict.lastValue?_eq_none_iff,
    Dict.lastValue?_eq_some_iff_append]
  refine and_congr_left' ⟨?_, ?_⟩
  · intro h before name text after hsplit hlast
    exact h name text ⟨before, after, hsplit, hlast⟩
  · rintro h name text ⟨before, after, hsplit, hlast⟩
    exact h before name text after hsplit hlast

/-- **An attempt is accepted** if it can be aligned with the utterance, no slot is left without
text, and the last occurrences of the names are accepted. -/
theorem accepted_iff_validated {m : Model} {a : Attempt} (hsolid : a.phrasing.Solid)
    (hne : a.phrasing ≠ []) (utterance : String) (values : Dict Json) :
    a.Accepted m (Text.normalize utterance) values ↔
      ∃ runs, a.Validated m (Text.normalize utterance) runs values := by
  have hfs : ∀ f ∈ fields (Text.normalize utterance).toList, IsField f := isField_of_mem_fields
  have hnormal : (Text.normalize utterance).toList =
      unfields (fields (Text.normalize utterance).toList) := by
    rw [fields_normalize, toList_normalize]
  constructor
  · rintro ⟨captured, hcaptured, haccepts⟩
    obtain ⟨runs, hruns, hfull, rfl⟩ :=
      (captures?_eq_some_iff hsolid hne hfs hnormal).mp hcaptured
    obtain ⟨haccepted, hothers⟩ := InputTypes.accepts_ofList_iff.mp haccepts
    refine ⟨runs, hruns, hfull, haccepted, fun name hname => hothers name ?_⟩
    rwa [← map_fst_occurrences hruns.toAligned] at hname
  · rintro ⟨runs, hruns, hfull, haccepted, hothers⟩
    refine ⟨.ofList (a.phrasing.occurrences runs), ?_, InputTypes.accepts_ofList_iff.mpr
      ⟨haccepted, ?_⟩⟩
    · exact (captures?_eq_some_iff hsolid hne hfs hnormal).mpr ⟨runs, hruns, hfull, rfl⟩
    · rwa [map_fst_occurrences hruns.toAligned]

/-- **The last occurrence of every slot is validated.**  In a model that was built, an utterance
with a word is understood by the first attempt that can be aligned with it, leaves no slot without
text, and has the last occurrence of every slot accepted by the slot's type.  These give the values;
an occurrence after which the same slot occurs again is not looked at.  So if the slots of the
phrasing have different names, every captured text is accepted. -/
theorem last_occurrences_are_validated {d : Declarations} {m : Model} (hbuild : d.build = .ok m)
    (s : Session) (utterance : String) (r : Resolution) :
    (m.resolve s.activeGoal? utterance = .ok r ↔
      hasWord utterance = true ∧ ∃ before a after,
        m.attempts s.activeGoal? = before ++ a :: after ∧
        (r.binding = a.binding ∧ r.scope = a.scope ∧
          ∃ runs, a.Validated m (Text.normalize utterance) runs r.values) ∧
        ∀ b ∈ before, ¬ ∃ values runs, b.Validated m (Text.normalize utterance) runs values) ∧
    (m.resolve s.activeGoal? utterance = .ok r →
      ∃ a ∈ m.attempts s.activeGoal?, r.binding = a.binding ∧ r.scope = a.scope ∧
        ∃ runs, LeastAligned a.phrasing (fields (Text.normalize utterance).toList) runs ∧
          (a.phrasing.slotNames.Nodup → ∀ name text,
            (name, text) ∈ a.phrasing.occurrences runs →
              ∃ v, m.types.coerce name text = .ok v ∧ r.values.find? name = some v)) := by
  have haccepted : ∀ a ∈ m.attempts s.activeGoal?, ∀ values,
      a.Accepted m (Text.normalize utterance) values ↔
        ∃ runs, a.Validated m (Text.normalize utterance) runs values := by
    intro a ha values
    obtain ⟨template, hcompile, hp⟩ := exists_compile_of_mem_attempts hbuild ha
    obtain ⟨hne, hsolid⟩ := Matcher.solid_compile hcompile _ hp
    exact accepted_iff_validated hsolid hne utterance values
  have hresolve : m.resolve s.activeGoal? utterance = .ok r ↔
      hasWord utterance = true ∧ ∃ before a after,
        m.attempts s.activeGoal? = before ++ a :: after ∧
        (r.binding = a.binding ∧ r.scope = a.scope ∧
          ∃ runs, a.Validated m (Text.normalize utterance) runs r.values) ∧
        ∀ b ∈ before, ¬ ∃ values runs, b.Validated m (Text.normalize utterance) runs values := by
    rw [resolve_eq_ok_iff]
    refine and_congr_right fun _ => exists_congr fun before => exists_congr fun a =>
      exists_congr fun after => and_congr_right fun hsplit => and_congr ?_ ?_
    · rw [haccepted a (by simp [hsplit])]
    · refine forall₂_congr fun b hb => not_congr (exists_congr fun values => ?_)
      exact haccepted b (by simp [hsplit, hb]) values
  refine ⟨hresolve, fun hr => ?_⟩
  obtain ⟨_, before, a, after, hsplit, ⟨hbinding, hscope, runs, hruns⟩, _⟩ := hresolve.mp hr
  exact ⟨a, by simp [hsplit], hbinding, hscope, runs, hruns.aligned,
    fun hnodup name text => hruns.accepted_of_nodup hnodup⟩

/-! ## A slot twice -/

/-- The one template that adds: its slot stands in it twice. -/
def addition : Phrasing :=
  [.word "add".toList, .slot "n", .word "and".toList, .slot "n"]

/-- Declarations of adding, with a handler that says what the slot holds. -/
def adding : Declarations :=
  ((Declarations.empty .unlimited 8).addType (InputType.number "n")).respondTo
    ["add [[n]] and [[n]]"] (.immediate (Act.say "[[n]]"))

/-- The only binding of adding. -/
def addingBinding : Binding :=
  ⟨⟨"add [[n]] and [[n]]", [addition]⟩, .immediate (Act.say "[[n]]")⟩

/-- Adding when it is built. -/
def addingModel : Model where
  types := InputTypes.add .empty (InputType.number "n")
  globals := [addingBinding]
  goals := []

lemma build_adding : adding.build = .ok addingModel :=
  Declarations.build_of_spelledBy (d := adding)
    (t := ⟨[[[.word "add".toList, .slot "n", .word "and".toList, .slot "n"]]], []⟩) (by decide)

/-- A slot in front of other tokens takes one field if they can be aligned with the others. -/
lemma LeastAligned.slot_singleton {p : Phrasing} {name : String} {f : List Char}
    {fs : List (List Char)} {runs : List (List (List Char))} (h : LeastAligned p fs runs) :
    LeastAligned (.slot name :: p) (f :: fs) ([f] :: runs) := by
  have hslot : LeastAligned (.slot name :: p) ([f] ++ fs) ([f] :: runs) := by
    refine .slot (List.cons_ne_nil _ _) h fun vs us hvs _ hlength => ?_
    exact absurd (Nat.lt_one_iff.mp hlength) (List.length_pos_iff.mpr hvs).ne'
  exact hslot

lemma leastAligned_addition (f g : List Char) :
    LeastAligned addition ["add".toList, f, "and".toList, g]
      [["add".toList], [f], ["and".toList], [g]] :=
  .word (.refl _) (.slot_singleton (.word (.refl _) (leastAligned_slot (List.cons_ne_nil _ _))))

/-- What is added is understood by the only binding. -/
lemma exists_resolve_adding (utterance : String) (es : List (String × Json))
    (h : (addingModel.resolve none utterance).toOption.map (·.values.entries) = some es) :
    ∃ r, addingModel.resolve none utterance = .ok r ∧ r.binding = addingBinding := by
  obtain ⟨r, hr, _⟩ := Option.map_eq_some_iff.mp h
  have hok := eq_ok_iff_toOption.mpr hr
  refine ⟨r, hok, ?_⟩
  rcases binding_mem_of_resolve hok with hmem | ⟨g, hg, _⟩
  · exact List.mem_singleton.mp hmem
  · cases hg

/-- “Add 2 and 3” is understood: the last occurrence of the slot is accepted. -/
theorem two_and_three_are_added :
    adding.build = .ok addingModel ∧ ∃ r a runs,
      addingModel.resolve (Session.new "s" .epoch).activeGoal? "add 2 and 3" = .ok r ∧
      a ∈ addingModel.attempts none ∧
      a.Validated addingModel (Text.normalize "add 2 and 3") runs r.values := by
  obtain ⟨r, hr, _⟩ := exists_resolve_adding "add 2 and 3" [("n", .int 3)] rfl
  obtain ⟨_, before, a, after, hsplit, ⟨_, _, runs, hruns⟩, _⟩ :=
    (last_occurrences_are_validated build_adding (Session.new "s" .epoch) "add 2 and 3" r).1.mp hr
  exact ⟨build_adding, r, a, runs, hr, hsplit ▸ by simp, hruns⟩

/-- “Add banana and 3” is understood, too: the alignment gives the slot “banana” first, which its
type does not accept, and then 3. -/
theorem banana_is_added :
    adding.build = .ok addingModel ∧ addingBinding.matcher.phrasings = [addition] ∧
      (∃ r, addingModel.resolve none "add banana and 3" = .ok r ∧ r.binding = addingBinding) ∧
      (∃ runs,
        LeastAligned addition (fields (Text.normalize "add banana and 3").toList) runs ∧
        ("n", "banana") ∈ addition.occurrences runs) ∧
      addingModel.types.coerce "n" "banana" = .error (.notANumber "n" "banana") := by
  have hfields : fields (Text.normalize "add banana and 3").toList =
      ["add".toList, "banana".toList, "and".toList, "3".toList] := by decide
  refine ⟨build_adding, rfl, exists_resolve_adding "add banana and 3" [("n", .int 3)] rfl,
    ⟨_, hfields ▸ leastAligned_addition _ _, ?_⟩, rfl⟩
  decide

end Dialogue
