import Dialogue.Proofs.Resolution.Compiled
import Dialogue.Proofs.Resolution.SpelledModels
import Dialogue.Proofs.Template.TrailingPunctuation

/-!
# Sentence punctuation does not matter for understanding

Punctuation after the last word of an utterance changes its last field only, so every phrasing
captures the same texts as without it.  The values of these are the same then, and so is the first
attempt that is accepted: a question mark can neither lose a reply nor win one for another binding.

* `normalize_append` — an utterance in normal form stays in normal form, and only its last field
  changes.
* `hasWord_append` — punctuation is no word.
* **`sentence_punctuation_does_not_matter`** — the outcome is the same.
-/

namespace Dialogue

open Text

/-! ## The utterance -/

lemma isField_append {f s : List Char} (hf : IsField f) (hs : IsPunctuation s) :
    IsField (f ++ s) :=
  ⟨List.append_ne_nil_of_left_ne_nil hf.1 s, List.forall_mem_append.mpr
    ⟨hf.2, fun c hc => isBlank_of_isAttached (isAttached_of_isSentencePunctuation (hs c hc))⟩⟩

/-- **Punctuation goes to the last field** of an utterance in normal form, which has one unless it
is empty. -/
lemma normalize_append {u p : String} (hu : Text.normalize u = u) (hne : u ≠ "")
    (hp : IsPunctuation p.toList) :
    Text.normalize (u ++ p) = u ++ p ∧ ∃ fs fs', (∀ f ∈ fs, IsField f) ∧ (∀ f ∈ fs', IsField f) ∧
      u.toList = unfields fs ∧ (u ++ p).toList = unfields fs' ∧ SameButEnd fs fs' := by
  have htext : u.toList = unfields (fields u.toList) := by rw [← toList_normalize, hu]
  have hfields : ∀ f ∈ fields u.toList, IsField f := isField_of_mem_fields
  generalize fields u.toList = fs at htext hfields
  rcases List.eq_nil_or_concat' fs with rfl | ⟨fs, f, rfl⟩
  · exact absurd (String.toList_eq_nil_iff.mp htext) hne
  · obtain ⟨hfs, hf⟩ := List.forall_mem_append.mp hfields
    have hfields' : ∀ g ∈ fs ++ [f ++ p.toList], IsField g :=
      List.forall_mem_append.mpr
        ⟨hfs, List.forall_mem_singleton.mpr (isField_append (hf f List.mem_cons_self) hp)⟩
    have htext' : (u ++ p).toList = unfields (fs ++ [f ++ p.toList]) := by
      rw [String.toList_append, htext, unfields_concat, unfields_concat, List.append_assoc]
    refine ⟨?_, fs ++ [f], fs ++ [f ++ p.toList], hfields, hfields', htext, htext',
      .concat fs f hp⟩
    rw [Text.normalize, htext', fields_unfields hfields', ← htext', String.ofList_toList]

/-- Punctuation is no word. -/
lemma hasWord_append {u p : String} (hp : IsPunctuation p.toList) :
    hasWord (u ++ p) = hasWord u := by
  have hnone : p.toList.any isAlphanumeric = false := by
    rw [List.any_eq_false]
    intro c hc
    simp [isAlphanumeric_of_isSentencePunctuation (hp c hc)]
  rw [hasWord, hasWord, String.toList_append, List.any_append, hnone, Bool.or_false]

/-! ## Understanding -/

/-- What is tried gives the same with punctuation and without it. -/
lemma result?_append {d : Declarations} {m : Model} (h : d.build = .ok m)
    {activeGoal : Option String} {a : Attempt} (ha : a ∈ m.attempts activeGoal) {u p : String}
    (hu : Text.normalize u = u) (hne : u ≠ "") (hp : IsPunctuation p.toList) :
    a.result? m (u ++ p) = a.result? m u := by
  obtain ⟨template, hcompile, hphrasing⟩ := exists_compile_of_mem_attempts h ha
  obtain ⟨hphrasingne, hsolid⟩ := Matcher.solid_compile hcompile _ hphrasing
  have hspoken := Matcher.spoken_compile hcompile _ hphrasing
  obtain ⟨_, fs, fs', hfs, hfs', htext, htext', hsame⟩ := normalize_append hu hne hp
  rw [Attempt.result?, Attempt.result?,
    captures?_of_sameButEnd hsolid hphrasingne hspoken hfs hfs' htext htext' hsame]

lemma resolve_append {d : Declarations} {m : Model} (h : d.build = .ok m)
    (activeGoal : Option String) {u p : String} (hu : Text.normalize u = u)
    (hp : IsPunctuation p.toList) :
    (m.resolve activeGoal (u ++ p)).toOption = (m.resolve activeGoal u).toOption := by
  rw [toOption_resolve, toOption_resolve, hasWord_normalize, hasWord_normalize, hasWord_append hp]
  by_cases hword : hasWord u = true
  · have hne : u ≠ "" := by
      rintro rfl
      cases hword
    rw [if_pos hword, if_pos hword, (normalize_append hu hne hp).1, hu]
    rw [← List.head?_filterMap, ← List.head?_filterMap,
      List.filterMap_congr fun a ha => result?_append h ha hu hne hp]
  · rw [if_neg hword, if_neg hword]

lemma eq_ok_iff_toOption {ε α : Type} {x : Except ε α} {a : α} :
    x = .ok a ↔ x.toOption = some a := by
  cases x <;> simp [Except.toOption]

lemma exists_eq_error_iff_toOption {ε α : Type} {x : Except ε α} :
    (∃ e, x = .error e) ↔ x.toOption = none := by
  cases x <;> simp [Except.toOption]

/-- **Sentence punctuation after the last word never changes the outcome.**  In every model that was
built and in every session, an utterance in normal form with sentence punctuation right after it is
not understood exactly if the utterance alone is not, and otherwise it is understood as that one is:
by the same binding, in the same scope, with the same values. -/
theorem sentence_punctuation_does_not_matter {d : Declarations} {m : Model}
    (hbuild : d.build = .ok m) (s : Session) {u p : String} (hu : Text.normalize u = u)
    (hp : ∀ c ∈ p.toList, isSentencePunctuation c = true) :
    ((∃ e, m.resolve s.activeGoal? (u ++ p) = .error e) ↔
      ∃ e, m.resolve s.activeGoal? u = .error e) ∧
    ∀ r, m.resolve s.activeGoal? (u ++ p) = .ok r ↔ m.resolve s.activeGoal? u = .ok r := by
  have hsame := resolve_append hbuild s.activeGoal? hu hp
  constructor
  · rw [exists_eq_error_iff_toOption, exists_eq_error_iff_toOption, hsame]
  · intro r
    rw [eq_ok_iff_toOption, eq_ok_iff_toOption, hsame]

/-- A switchboard, which is told whom to call. -/
def switchboard : Declarations :=
  ((Declarations.empty .unlimited 8).addType (.literal "name" [])).respondTo ["call [[name]]"]
    (.immediate (Act.say "Calling."))

/-- The switchboard when it is built. -/
def switchboardModel : Model where
  types := InputTypes.add .empty (.literal "name" [])
  globals := [⟨⟨"call [[name]]", [[.word "call".toList, .slot "name"]]⟩,
    .immediate (Act.say "Calling.")⟩]
  goals := []

lemma build_switchboard : switchboard.build = .ok switchboardModel :=
  Declarations.build_of_spelledBy (d := switchboard)
    (t := ⟨[[[.word "call".toList, .slot "name"]]], []⟩) (by decide)

/-- “Call Bob?!” is a call of Bob, as “Call Bob” is, and “Bob?!” is no more than “Bob”. -/
theorem call_bob_in_doubt :
    let s := Session.new "s" .epoch
    switchboard.build = .ok switchboardModel ∧
      (∃ r, switchboardModel.resolve s.activeGoal? "Call Bob" = .ok r ∧
        switchboardModel.resolve s.activeGoal? ("Call Bob" ++ "?!") = .ok r ∧
        r.values.entries = [("name", .str "Bob")]) ∧
      ∃ e, switchboardModel.resolve s.activeGoal? ("Bob" ++ "?!") = .error e := by
  intro s
  have hmarks : ∀ c ∈ "?!".toList, isSentencePunctuation c = true :=
    List.all_eq_true.mp (by decide)
  have hcall : (switchboardModel.resolve s.activeGoal? "Call Bob").toOption.map
      (·.values.entries) = some [("name", .str "Bob")] := by
    decide
  have hbob : (switchboardModel.resolve s.activeGoal? "Bob").toOption.map
      (·.values.entries) = none := by
    decide
  obtain ⟨r, hr, hvalues⟩ := Option.map_eq_some_iff.mp hcall
  have hr : switchboardModel.resolve s.activeGoal? "Call Bob" = .ok r := eq_ok_iff_toOption.mpr hr
  obtain ⟨_, hsame⟩ := sentence_punctuation_does_not_matter build_switchboard s
    (u := "Call Bob") (by decide) hmarks
  obtain ⟨hfails, _⟩ := sentence_punctuation_does_not_matter build_switchboard s
    (u := "Bob") (by decide) hmarks
  exact ⟨build_switchboard, ⟨r, hr, (hsame r).mpr hr, hvalues⟩,
    hfails.mpr (exists_eq_error_iff_toOption.mpr (Option.map_eq_none_iff.mp hbob))⟩

end Dialogue
