import Dialogue.Proofs.Resolution.Building
import Dialogue.Proofs.Resolution.Precedence

/-!
# Models consist of compiled templates

A model is built from declarations, and building it compiles their templates one after the other.
So a binding of a model, be it a global one or one of a goal, has the phrasings of a template that
was compiled with the input types of the model.  Whatever holds of compiled templates holds of what
is tried for an utterance.

* `Binding.Compiled` — the matcher of a binding was compiled.
* `compiled_of_build` — so are all matchers of a model.
* `exists_compile_of_mem_attempts` — the phrasings that are tried come from compiled templates.
-/

namespace Dialogue

/-- The matcher of the binding is a template that was compiled for the declarations. -/
def Binding.Compiled (d : Declarations) (b : Binding) : Prop :=
  ∃ template, Matcher.compile d.patterns d.types d.maxExpansions template = .ok b.matcher

namespace Declarations

variable {d : Declarations}

lemma compiled_of_compileResponder {r : Responder} {bs : List Binding}
    (h : d.compileResponder r = .ok bs) : ∀ b ∈ bs, b.Compiled d := by
  obtain ⟨ms, hms, rfl⟩ := compileResponder_eq_ok_iff.mp h
  intro b hb
  obtain ⟨m, hm, rfl⟩ := List.mem_map.mp hb
  obtain ⟨template, _, hcompile⟩ := exists_mem_of_forall₂ hms m hm
  exact ⟨template, hcompile⟩

lemma compiled_of_compileResponders {rs : List Responder} {bs : List Binding}
    (h : d.compileResponders rs = .ok bs) : ∀ b ∈ bs, b.Compiled d := by
  obtain ⟨lists, hlists, rfl⟩ := compileResponders_eq_ok_iff.mp h
  intro b hb
  obtain ⟨bs, hbs, hb⟩ := List.mem_flatten.mp hb
  obtain ⟨r, _, hr⟩ := exists_mem_of_forall₂ hlists bs hbs
  exact compiled_of_compileResponder hr b hb

lemma compiled_of_compileGoals : ∀ {gs : List GoalDeclaration} {compiled goals : List Goal},
    (∀ g ∈ compiled, ∀ b ∈ g.bindings, b.Compiled d) →
      d.compileGoals compiled gs = .ok goals → ∀ g ∈ goals, ∀ b ∈ g.bindings, b.Compiled d
  | [], compiled, goals, hcompiled, h => by
      rw [compileGoals] at h
      exact Except.ok.inj h ▸ hcompiled
  | g :: gs, compiled, goals, hcompiled, h => by
      obtain ⟨_, bs, hbs, hrest⟩ := compileGoals_cons_eq_ok_iff.mp h
      refine compiled_of_compileGoals (List.forall_mem_append.mpr ⟨hcompiled, ?_⟩) hrest
      exact List.forall_mem_singleton.mpr (compiled_of_compileResponders hbs)

/-- **The bindings of a model are compiled**, the global ones and those of goals. -/
theorem compiled_of_build {m : Model} (h : d.build = .ok m) :
    m.types = d.types ∧
    ∀ b, (b ∈ m.globals ∨ ∃ g ∈ m.goals, b ∈ g.bindings) → b.Compiled d := by
  obtain ⟨htypes, hglobals, hgoals⟩ := build_eq_ok_iff.mp h
  refine ⟨htypes, ?_⟩
  rintro b (hb | ⟨g, hg, hb⟩)
  · exact compiled_of_compileResponders hglobals b hb
  · exact compiled_of_compileGoals (List.forall_mem_nil _) hgoals g hg b hb

end Declarations

/-! ## What is tried -/

/-- What is tried is a phrasing of a binding of the model. -/
lemma phrasing_mem_of_mem_attempts {m : Model} {activeGoal : Option String} {a : Attempt}
    (h : a ∈ m.attempts activeGoal) :
    (a.binding ∈ m.globals ∨ ∃ g ∈ m.goals, a.binding ∈ g.bindings) ∧
      a.phrasing ∈ a.binding.matcher.phrasings := by
  refine ⟨binding_mem_of_mem_attempts h, ?_⟩
  rw [attempts_eq] at h
  obtain ⟨x, _, hx⟩ := List.mem_flatMap.mp h
  obtain ⟨b, _, hb⟩ := List.mem_flatMap.mp hx
  obtain ⟨p, hp, rfl⟩ := List.mem_map.mp hb
  exact hp

/-- What is tried for an utterance is a phrasing of a compiled template. -/
lemma exists_compile_of_mem_attempts {d : Declarations} {m : Model} (h : d.build = .ok m)
    {activeGoal : Option String} {a : Attempt} (ha : a ∈ m.attempts activeGoal) :
    ∃ template,
      Matcher.compile d.patterns d.types d.maxExpansions template = .ok a.binding.matcher ∧
      a.phrasing ∈ a.binding.matcher.phrasings := by
  obtain ⟨hbinding, hphrasing⟩ := phrasing_mem_of_mem_attempts ha
  obtain ⟨template, hcompile⟩ := (Declarations.compiled_of_build h).2 a.binding hbinding
  exact ⟨template, hcompile, hphrasing⟩

end Dialogue
