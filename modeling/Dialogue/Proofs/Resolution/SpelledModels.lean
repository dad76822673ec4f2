import Dialogue.Proofs.Resolution.Building
import Dialogue.Proofs.Template.Spelling

/-!
# Models by the elements of their templates

Templates are read from texts, and what a text is read as has to be argued.  The other direction is
a computation: elements are spelled, and written out into phrasings.  So declarations are described
by the elements of their templates.  If the templates are the plain spellings of these elements,
then the model is known, phrasing by phrasing.

* `Matcher.spelled`, `Template.isCompilable` — what elements are compiled to, and whether they are.
* `Declarations.Trees` — the elements of all templates; `Declarations.SpelledBy` can be decided.
* **`build_of_spelledBy`** — the model of declarations that are spelled by elements.
-/

namespace Dialogue

/-! ## Templates -/

/-- The matcher of the plain spelling. -/
def Matcher.spelled (nodes : List Node) : Matcher :=
  ⟨String.ofList (Template.spell nodes), distinct (Template.ways nodes)⟩

/-- The elements can be spelled, and the spelling compiles. -/
def Template.isCompilable (patterns : PatternBuilder) (types : InputTypes) (limit : ℕ)
    (nodes : List Node) : Bool :=
  areSpellable nodes && (expand? limit nodes).isSome && !(Matcher.distinct (ways nodes)).isEmpty &&
    ((Matcher.distinct (ways nodes)).findSome? (Matcher.fault? patterns types)).isNone

/-- **The plain spelling compiles** to the phrasings of its elements. -/
lemma Matcher.compile_spell {patterns : PatternBuilder} {types : InputTypes} {limit : ℕ}
    {nodes : List Node} (h : Template.isCompilable patterns types limit nodes = true) :
    compile patterns types limit (String.ofList (Template.spell nodes)) = .ok (spelled nodes) := by
  simp only [Template.isCompilable, Bool.and_eq_true, Bool.not_eq_true', Option.isNone_iff_eq_none,
    List.isEmpty_eq_false_iff] at h
  obtain ⟨⟨⟨hspellable, hexpand⟩, hsome⟩, hpass⟩ := h
  obtain ⟨all, hall⟩ := Option.isSome_iff_exists.mp hexpand
  obtain rfl := Template.expand?_eq_ways hall
  rw [compile_of_expand? (Template.parse_spell hspellable) hall, hpass]
  exact if_neg hsome

/-! ## Responders -/

namespace Responder

/-- The templates are the plain spellings of the elements, and compile for the declarations. -/
def SpelledBy (d : Declarations) (r : Responder) (trees : List (List Node)) : Prop :=
  r.templates = trees.map (fun nodes => String.ofList (Template.spell nodes)) ∧
    ∀ nodes ∈ trees, Template.isCompilable d.patterns d.types d.maxExpansions nodes = true

instance (d : Declarations) (r : Responder) (trees : List (List Node)) :
    Decidable (r.SpelledBy d trees) :=
  inferInstanceAs (Decidable (_ ∧ _))

/-- The bindings of the handler for templates with the given elements. -/
def spelled (r : Responder) (trees : List (List Node)) : List Binding :=
  trees.map fun nodes => ⟨Matcher.spelled nodes, r.handler⟩

end Responder

namespace Declarations

/-- The bindings of responders, one after the other. -/
def spelledResponders (rs : List Responder) (treess : List (List (List Node))) : List Binding :=
  (List.zipWith Responder.spelled rs treess).flatten

variable {d : Declarations}

lemma compileResponder_of_spelledBy {r : Responder} {trees : List (List Node)}
    (h : r.SpelledBy d trees) :
    d.compileResponder r = .ok (r.spelled trees) := by
  obtain ⟨htemplates, hcompilable⟩ := h
  refine compileResponder_eq_ok_iff.mpr ⟨trees.map Matcher.spelled, ?_, ?_⟩
  · rw [htemplates, List.forall₂_map_left_iff, List.forall₂_map_right_iff]
    exact List.forall₂_same.mpr fun nodes hnodes =>
      Matcher.compile_spell (hcompilable nodes hnodes)
  · rw [Responder.spelled, List.map_map]
    rfl

lemma compileResponders_of_spelledBy {rs : List Responder} {treess : List (List (List Node))}
    (h : List.Forall₂ (Responder.SpelledBy d) rs treess) :
    d.compileResponders rs = .ok (spelledResponders rs treess) := by
  refine compileResponders_eq_ok_iff.mpr ⟨_, ?_, rfl⟩
  induction h with
  | nil => exact .nil
  | cons hr _ ih => exact .cons (compileResponder_of_spelledBy hr) ih

/-! ## Goals and models -/

/-- The elements of all templates: responder by responder, and goal by goal. -/
structure Trees where
  responders : List (List (List Node))
  goals : List (List (List (List Node)))

/-- The templates are the plain spellings of the elements, and compile; no two goals share an id. -/
def SpelledBy (d : Declarations) (t : Trees) : Prop :=
  List.Forall₂ (Responder.SpelledBy d) d.responders t.responders ∧
  List.Forall₂ (fun g => List.Forall₂ (Responder.SpelledBy d) g.responders)
    d.goals t.goals ∧
  (d.goals.map (·.id)).Nodup

instance (d : Declarations) (t : Trees) : Decidable (d.SpelledBy t) :=
  inferInstanceAs (Decidable (_ ∧ _ ∧ _))

/-- The goal whose templates have the given elements. -/
def spelledGoal (g : GoalDeclaration) (treess : List (List (List Node))) : Goal :=
  ⟨g.id, g.prompts, spelledResponders g.responders treess⟩

/-- The model whose templates have the given elements. -/
def spelled (d : Declarations) (t : Trees) : Model where
  types := d.types
  globals := spelledResponders d.responders t.responders
  goals := List.zipWith spelledGoal d.goals t.goals

/-- Goals are compiled one by one, as their ids are new. -/
lemma compileGoals_of_spelledBy {gs : List GoalDeclaration}
    {treesss : List (List (List (List Node)))}
    (h : List.Forall₂ (fun g => List.Forall₂ (Responder.SpelledBy d) g.responders) gs treesss)
    (compiled : List Goal)
    (hnodup : (compiled.map (·.id) ++ gs.map (·.id)).Nodup) :
    d.compileGoals compiled gs = .ok (compiled ++ List.zipWith spelledGoal gs treesss) := by
  induction h generalizing compiled with
  | nil =>
      rw [compileGoals]
      exact congrArg _ (List.append_nil _).symm
  | @cons g treess gs treesss hg _ ih =>
      rw [List.map_cons, List.append_cons] at hnodup
      have hnew : compiled.any (·.id == g.id) = false := by
        have hdisjoint := List.disjoint_of_nodup_append (List.Nodup.of_append_left hnodup)
        simpa [List.any_eq_false] using hdisjoint
      have hrest := ih (compiled ++ [spelledGoal g treess]) (by
        rw [List.map_append]
        exact hnodup)
      refine compileGoals_cons_eq_ok_iff.mpr ⟨hnew, _, compileResponders_of_spelledBy hg, ?_⟩
      rw [spelledGoal] at hrest
      rw [hrest, List.zipWith_cons_cons, List.append_assoc]
      rfl

/-- **The model of declarations that are spelled by elements.** -/
theorem build_of_spelledBy {t : Trees} (h : d.SpelledBy t) : d.build = .ok (d.spelled t) := by
  obtain ⟨hresponders, hgoals, hnodup⟩ := h
  exact build_eq_ok_iff.mpr ⟨rfl, compileResponders_of_spelledBy hresponders,
    compileGoals_of_spelledBy hgoals [] hnodup⟩

end Declarations

end Dialogue
