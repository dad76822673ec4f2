import Dialogue.Proofs.Template.Choices
import Dialogue.Proofs.Template.Captures
import Dialogue.Proofs.Resolution.Compiled
import Dialogue.Proofs.Resolution.SpelledModels

/-!
# Every slot has an input type

A slot without an input type is refused when its template is compiled.  The check looks at the
phrasings, one after the other, and passes over those that are empty or that it has seen; still it
finds every slot of the template, wherever it stands, because every slot stands in some phrasing.
Only if the pattern of an earlier phrasing cannot be built, the template is refused for this
instead.

Compiled templates only have registered slots, then, and a model consists of compiled templates.  So
when an utterance is understood and a captured text is not accepted, the reason is never that its
slot has no type.

* `compile_eq_unbuildable_iff`, `compile_eq_unknownSlot_iff` — which templates are refused for a
  pattern, and which for a slot.
* `registered_of_build` — the phrasings of a model are registered.
* **`slots_are_registered`** — which templates are refused, and what follows for understanding.
-/

namespace Dialogue

/-! ## Templates -/

namespace Matcher

variable {patterns : PatternBuilder} {types : InputTypes} {limit : ℕ} {template : String}

section WrittenOut

variable {nodes : List Node} {all : List Phrasing} (hnodes : Template.parse template = .ok nodes)
  (hall : Template.expand? limit nodes = some all)

include hnodes hall

/-- **Which templates are refused for a pattern**: those with a phrasing whose slots are registered
and whose pattern is refused, if all distinct phrasings before it pass. -/
lemma compile_eq_unbuildable_iff {reason : String} :
    compile patterns types limit template = .error ⟨template, .unbuildable reason⟩ ↔
      ∃ before p after, distinct all = before ++ p :: after ∧
        (∀ q ∈ before, q.Registered types ∧ patterns.Builds q) ∧
        p.Registered types ∧ patterns.refusal? p = some reason := by
  have hfault : TemplateFault.unbuildable reason ≠ .empty := nofun
  rw [compile_eq_error_iff hnodes hall hfault, List.findSome?_eq_some_iff]
  simp only [fault?_eq_unbuildable_iff, fault?_eq_none_iff]
  constructor
  · rintro ⟨before, p, after, hsplit, hp, hbefore⟩
    exact ⟨before, p, after, hsplit, hbefore, hp⟩
  · rintro ⟨before, p, after, hsplit, hbefore, hp⟩
    exact ⟨before, p, after, hsplit, hp, hbefore⟩

/-- **Which templates are refused for a slot**: those in which one stands, anywhere, that has no
input type, unless they are refused for a pattern. -/
theorem compile_eq_unknownSlot_iff :
    (∃ name, compile patterns types limit template = .error ⟨template, .unknownSlot name⟩) ↔
      (∃ name, types.contains name = false ∧ ∃ node ∈ nodes, node.Mentions name) ∧
      ∀ reason,
        compile patterns types limit template ≠ .error ⟨template, .unbuildable reason⟩ := by
  have hsayable := Template.sayable_of_isTemplate (Template.parse_eq_ok_iff.mp hnodes)
  have hslots : ∀ name, (∃ p ∈ all, Token.slot name ∈ p) ↔ ∃ node ∈ nodes, node.Mentions name := by
    rw [Template.expand?_eq_ways hall]
    exact fun name => Template.exists_slot_mem_ways_iff hsayable
  rcases compile_cases patterns types hnodes hall with
    ⟨fault, ⟨p, hp, -, hfault⟩, hcompile⟩ | ⟨hpass, hcompile⟩
  · rw [hcompile]
    rcases fault?_cases hfault with ⟨name, rfl, hname, hslot⟩ | ⟨reason, rfl, -, -⟩
    · refine iff_of_true ⟨name, rfl⟩ ⟨⟨name, hname, (hslots name).mp ⟨p, hp, hslot⟩⟩, ?_⟩
      simp
    · simp
  · refine iff_of_false ?_ ?_
    · rintro ⟨name, h⟩
      rw [hcompile] at h
      split at h <;> cases h
    · rintro ⟨⟨name, hname, hmentions⟩, -⟩
      obtain ⟨p, hp, hslot⟩ := (hslots name).mpr hmentions
      exact absurd (hpass.registered p hp name hslot) (by simp [hname])

/-- No template is refused for a pattern if all are built. -/
lemma compile_ne_unbuildable (hbuilt : patterns.BuildsAll all) (reason : String) :
    compile patterns types limit template ≠ .error ⟨template, .unbuildable reason⟩ := by
  rw [Ne, compile_eq_unbuildable_iff hnodes hall]
  rintro ⟨before, p, after, hsplit, -, -, hrefused⟩
  obtain ⟨hp, hne⟩ := mem_distinct.mp (hsplit ▸ List.mem_append_cons_self : p ∈ distinct all)
  cases hrefused.symm.trans (hbuilt p hp hne)

end WrittenOut

/-- The phrasings of a compiled template are registered. -/
lemma registered_of_compile {m : Matcher} (h : compile patterns types limit template = .ok m) :
    ∀ p ∈ m.phrasings, p.Registered types := by
  obtain ⟨nodes, all, _, _, hkept⟩ := exists_of_compile h
  obtain ⟨hpass, _⟩ := keepDistinct_eq_ok_iff.mp hkept
  exact fun p hp => hpass.registered p ((mem_kept_iff hkept).mp hp).1

end Matcher

/-! ## Models -/

/-- The phrasings of the binding are registered. -/
def Binding.Registered (types : InputTypes) (b : Binding) : Prop :=
  ∀ p ∈ b.matcher.phrasings, p.Registered types

/-- **The bindings of a model are registered**, the global ones and those of goals, whatever was
declared and in whatever order. -/
theorem Declarations.registered_of_build {d : Declarations} {m : Model} (h : d.build = .ok m) :
    (∀ b ∈ m.globals, b.Registered m.types) ∧
    ∀ g ∈ m.goals, ∀ b ∈ g.bindings, b.Registered m.types := by
  obtain ⟨htypes, hcompiled⟩ := compiled_of_build h
  have hregistered : ∀ b : Binding, b.Compiled d → b.Registered m.types := by
    rintro b ⟨template, hb⟩
    rw [htypes]
    exact Matcher.registered_of_compile hb
  constructor
  · intro b hb
    exact hregistered b (hcompiled b (.inl hb))
  · intro g hg b hb
    exact hregistered b (hcompiled b (.inr ⟨g, hg, hb⟩))

/-! ## Understanding -/

lemma mem_of_captureSlots {names : List String} {spans : List (List Char)}
    {slots captured : Dict String} (h : captureSlots names spans slots = some captured)
    {name value : String} (hvalue : captured.find? name = some value) :
    name ∈ names ∨ slots.find? name = some value := by
  fun_induction captureSlots names spans slots with
  | case1 => cases h
  | case2 first names span spans slots text hfull ih =>
      rcases ih h with hmem | hfind
      · exact .inl (List.mem_cons_of_mem _ hmem)
      · by_cases hname : name = first
        · exact .inl (hname ▸ List.mem_cons_self)
        · exact .inr (by rwa [Dict.find?_insert_of_ne _ _ hname] at hfind)
  | case3 => exact .inr (Option.some.inj h ▸ hvalue)

/-- A phrasing captures texts for its own slots only. -/
lemma slot_mem_of_captures? {p : Phrasing} {text : String} {captured : Dict String}
    (h : p.captures? text = some captured) {name value : String}
    (hvalue : captured.find? name = some value) : Token.slot name ∈ p := by
  obtain ⟨spans, _, hcaptured⟩ := Option.bind_eq_some_iff.mp h
  rcases mem_of_captureSlots hcaptured hvalue with hmem | hnone
  · exact Phrasing.mem_slotNames.mp hmem
  · simp at hnone

/-- A captured text is never refused for want of a type if its slot has one. -/
lemma InputTypes.coerce_ne_unknownType {types : InputTypes} {slot : String}
    (h : types.contains slot = true) (raw name : String) :
    types.coerce slot raw ≠ .error (.unknownType name) := by
  obtain ⟨t, ht⟩ := Option.isSome_iff_exists.mp h
  rw [coerce, ht]
  simp only [InputType.coerce]
  split
  · split <;> simp
  · split <;> simp

/-- **Every slot has an input type.**  Let the patterns of all phrasings of a template that can be
read and written out be built.  Then the template is refused for a slot exactly if one stands in it,
at any depth, that has no input type.  Whatever patterns are built with, it is refused for a slot
exactly if there is such a slot and it is not refused for a pattern; and it is refused for a pattern
exactly if all distinct phrasings before some phrasing pass, and this one has registered slots and a
pattern that is refused.  So in a model that was built, from whatever declarations, all that a
binding captures is captured for slots that have types, and no captured text that is tried for an
utterance is ever refused for want of one. -/
theorem slots_are_registered (patterns : PatternBuilder) :
    (∀ types limit template nodes all, Template.parse template = .ok nodes →
      Template.expand? limit nodes = some all →
        let result := Matcher.compile patterns types limit template
        let hasUnknown := ∃ name, types.contains name = false ∧ ∃ node ∈ nodes, node.Mentions name
        (patterns.BuildsAll all →
          ((∃ name, result = .error ⟨template, .unknownSlot name⟩) ↔ hasUnknown)) ∧
        ((∃ name, result = .error ⟨template, .unknownSlot name⟩) ↔
          hasUnknown ∧ ∀ reason, result ≠ .error ⟨template, .unbuildable reason⟩) ∧
        ∀ reason, result = .error ⟨template, .unbuildable reason⟩ ↔
          ∃ before p after, Matcher.distinct all = before ++ p :: after ∧
            (∀ q ∈ before, q.Registered types ∧ patterns.Builds q) ∧
            p.Registered types ∧ patterns.refusal? p = some reason) ∧
    ∀ (d : Declarations) m, d.build = .ok m →
      (∀ b, (b ∈ m.globals ∨ ∃ g ∈ m.goals, b ∈ g.bindings) → ∀ text,
        ∀ captured ∈ b.matcher.candidates text, ∀ slot raw, captured.find? slot = some raw →
          m.types.contains slot = true) ∧
      ∀ (s : Session) utterance, ∀ a ∈ m.attempts s.activeGoal?, ∀ captured,
        a.phrasing.captures? (Text.normalize utterance) = some captured → ∀ slot raw,
          captured.find? slot = some raw → ∀ name,
            m.types.coerce slot raw ≠ .error (.unknownType name) := by
  refine ⟨fun types limit template nodes all hnodes hall => ⟨fun hbuilt => ?built,
    Matcher.compile_eq_unknownSlot_iff hnodes hall,
    fun reason => Matcher.compile_eq_unbuildable_iff hnodes hall⟩, fun d m hbuild => ?model⟩
  case built =>
    rw [Matcher.compile_eq_unknownSlot_iff hnodes hall]
    exact and_iff_left (Matcher.compile_ne_unbuildable hnodes hall hbuilt)
  case model =>
    obtain ⟨hglobals, hgoals⟩ := Declarations.registered_of_build hbuild
    have hregistered : ∀ b, (b ∈ m.globals ∨ ∃ g ∈ m.goals, b ∈ g.bindings) →
        b.Registered m.types := by
      rintro b (hb | ⟨g, hg, hb⟩)
      · exact hglobals b hb
      · exact hgoals g hg b hb
    constructor
    · intro b hb text captured hcaptured slot raw hraw
      obtain ⟨p, hp, hcaptures⟩ := List.mem_filterMap.mp hcaptured
      exact hregistered b hb p hp slot (slot_mem_of_captures? hcaptures hraw)
    · intro s utterance a ha captured hcaptures slot raw hraw
      obtain ⟨hb, hp⟩ := phrasing_mem_of_mem_attempts ha
      have hslot := slot_mem_of_captures? hcaptures hraw
      exact InputTypes.coerce_ne_unknownType (hregistered a.binding hb a.phrasing hp slot hslot) raw

/-- A slot without a type may stay hidden behind a pattern that is refused. -/
example :
    let patterns : PatternBuilder := ⟨fun p => if 3 < p.length then some "too long" else none⟩
    let template := "page \x7bmy whole team|[[boss]]\x7d"
    Matcher.compile patterns .empty 8 template = .error ⟨template, .unbuildable "too long"⟩ := by
  have hparse := @Template.parse_spell [.word "page".toList,
    .choice [["my", "whole", "team"].map (.word ·.toList), [.slot "boss"]]] (by decide)
  exact (Matcher.compile_of_expand? hparse rfl).trans rfl

/-- A pager, which knows what a name is. -/
def pager : Declarations :=
  ((Declarations.empty .unlimited 8).addType (.literal "name" [])).respondTo
    ["page \x7b[[name]]|my team\x7d"] (.immediate (Act.say "Paging."))

/-- Whom the pager pages: somebody by name, or the team. -/
def paging : List Node :=
  [.word "page".toList, .choice [[.slot "name"], [.word "my".toList, .word "team".toList]]]

/-- Whom somebody wants to page: his boss, too. -/
def pagingBoss : List Node :=
  [.word "page".toList, .choice [[.slot "name"],
    [.word "my".toList, .choice [[.slot "boss"], [.word "team".toList]]]]]

/-- A boss cannot be paged, since it is not known what a boss is.  “Page Ann” gets a name from the
template without the boss, and it is known what a name is. -/
theorem boss_is_unknown :
    let template := "page \x7b[[name]]|my \x7b[[boss]]|team\x7d\x7d"
    (∃ name, Matcher.compile pager.patterns pager.types 8 template =
      .error ⟨template, .unknownSlot name⟩) ∧
    ∃ m, pager.build = .ok m ∧ ∃ b ∈ m.globals, ∃ captured ∈ b.matcher.candidates "page Ann",
      captured.find? "name" = some "Ann" ∧ m.types.contains "name" = true := by
  intro template
  have hparse : Template.parse template = .ok pagingBoss :=
    @Template.parse_spell pagingBoss (by decide)
  have hmentions : (Node.choice [[.slot "name"],
      [.word "my".toList, .choice [[.slot "boss"], [.word "team".toList]]]]).Mentions "boss" := by
    refine .choice (List.mem_cons_of_mem _ List.mem_cons_self)
      (List.mem_cons_of_mem _ List.mem_cons_self) ?_
    exact .choice List.mem_cons_self List.mem_cons_self .slot
  have hbuild : pager.build = .ok (pager.spelled ⟨[[paging]], []⟩) :=
    Declarations.build_of_spelledBy (by decide)
  have hcaptured : Dict.ofList [("name", "Ann")] ∈
      (Matcher.spelled paging).candidates "page Ann" := by
    decide
  obtain ⟨htemplates, hmodels⟩ := slots_are_registered pager.patterns
  obtain ⟨hregistered, -⟩ := hmodels pager _ hbuild
  constructor
  · obtain ⟨hunknown, -⟩ := htemplates pager.types 8 template _ _ hparse rfl
    exact (hunknown fun _ _ _ => rfl).mpr
      ⟨"boss", by decide, _, List.mem_cons_of_mem _ List.mem_cons_self, hmentions⟩
  · refine ⟨_, hbuild, _, List.mem_cons_self, _, hcaptured, rfl, ?_⟩
    exact hregistered _ (.inl List.mem_cons_self) "page Ann" _ hcaptured "name" "Ann" rfl

end Dialogue
