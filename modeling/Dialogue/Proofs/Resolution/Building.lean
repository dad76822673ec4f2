import Dialogue.Proofs.Template.Compiling
import Dialogue.Resolution

/-!
# Building a model

Building compiles what was declared, piece by piece: a responder is compiled if its templates are,
and a model is built if its responders and those of its goals are compiled.  The limit on phrasings
and the builder of patterns take part in this only by refusing.  Where a template passes under two
limits and with two builders, its phrasings are the same, and so is the model.

* `compileResponder_eq_ok_iff`, `compileResponders_eq_ok_iff`, `compileGoals_cons_eq_ok_iff` —
  compiling piece by piece.
* `build_eq_ok_iff` — a model is what the global responders and the goals are compiled to.
* `globals_of_single` — the binding of a single template.
* **`build_unique`** — whatever the limit and the builder, declarations have one model at most.
-/

namespace Dialogue

namespace Declarations

variable {d d' : Declarations}

/-! ## Piece by piece -/

/-- A responder is compiled if its templates are. -/
lemma compileResponder_eq_ok_iff {r : Responder} {bs : List Binding} :
    d.compileResponder r = .ok bs ↔ ∃ ms : List Matcher,
      List.Forall₂ (fun t m => Matcher.compile d.patterns d.types d.maxExpansions t = .ok m)
        r.templates ms ∧ bs = ms.map (⟨·, r.handler⟩) := by
  rw [compileResponder, mapM_eq_ok_iff]
  generalize r.templates = templates
  induction templates generalizing bs with
  | nil => simp
  | cons template templates ih =>
      simp only [List.forall₂_cons_left_iff, ih]
      constructor
      · rintro ⟨b, bs', hb, ⟨ms, hms, rfl⟩, rfl⟩
        split at hb
        · rename_i m hm
          obtain rfl := Except.ok.inj hb
          exact ⟨m :: ms, ⟨m, ms, hm, hms, rfl⟩, rfl⟩
        · cases hb
      · rintro ⟨_, ⟨m, ms, hm, hms, rfl⟩, rfl⟩
        exact ⟨⟨m, r.handler⟩, _, by rw [hm], ⟨ms, hms, rfl⟩, rfl⟩

/-- Responders are compiled if each of them is. -/
lemma compileResponders_eq_ok_iff {rs : List Responder} {bs : List Binding} :
    d.compileResponders rs = .ok bs ↔ ∃ lists,
      List.Forall₂ (fun r bs => d.compileResponder r = .ok bs) rs lists ∧ bs = lists.flatten := by
  rw [compileResponders]
  simp only [← mapM_eq_ok_iff]
  cases rs.mapM d.compileResponder <;> simp [Except.map, eq_comm]

/-- A further goal is compiled if its id is new and its responders are compiled. -/
lemma compileGoals_cons_eq_ok_iff {g : GoalDeclaration} {gs : List GoalDeclaration}
    {compiled goals : List Goal} : d.compileGoals compiled (g :: gs) = .ok goals ↔
      compiled.any (·.id == g.id) = false ∧ ∃ bs, d.compileResponders g.responders = .ok bs ∧
        d.compileGoals (compiled ++ [⟨g.id, g.prompts, bs⟩]) gs = .ok goals := by
  rw [compileGoals]
  cases hseen : compiled.any (·.id == g.id) with
  | true => simp
  | false => cases d.compileResponders g.responders <;> simp [bind, Except.bind]

/-- **A model is what its declarations are compiled to**, with their input types. -/
lemma build_eq_ok_iff {m : Model} : d.build = .ok m ↔ m.types = d.types ∧
    d.compileResponders d.responders = .ok m.globals ∧
    d.compileGoals [] d.goals = .ok m.goals := by
  obtain ⟨types, globals, goals⟩ := m
  rw [build]
  cases d.compileResponders d.responders with
  | error e => simp [bind, Except.bind]
  | ok globals' =>
      cases d.compileGoals [] d.goals <;>
        simp [bind, Except.bind, pure, Except.pure, eq_comm]

/-- **A single template** that is understood at any time, and written out into a single phrasing, is
the only global binding of the model. -/
lemma globals_of_single {m : Model} (h : d.build = .ok m) {template : String} {handler : Handler}
    (hresponders : d.responders = [⟨[template], handler⟩]) {nodes : List Node}
    (hnodes : Template.parse template = .ok nodes) {p : Phrasing} (hne : p ≠ [])
    (hways : Template.ways nodes = [p]) : m.globals = [⟨⟨template, [p]⟩, handler⟩] := by
  obtain ⟨-, hglobals, -⟩ := build_eq_ok_iff.mp h
  rw [hresponders] at hglobals
  obtain ⟨lists, hlists, hflat⟩ := compileResponders_eq_ok_iff.mp hglobals
  obtain ⟨bs, _, hbs, hrest, rfl⟩ := List.forall₂_cons_left_iff.mp hlists
  obtain rfl := List.forall₂_nil_left_iff.mp hrest
  obtain ⟨ms, hms, rfl⟩ := compileResponder_eq_ok_iff.mp hbs
  obtain ⟨matcher, _, hmatcher, hrest, rfl⟩ := List.forall₂_cons_left_iff.mp hms
  obtain rfl := List.forall₂_nil_left_iff.mp hrest
  rw [hflat, Matcher.eq_of_compile_single hnodes hne hways hmatcher]
  rfl

/-! ## One model at most -/

/-- The matcher is a compiled form of the template, whatever let it pass. -/
def Compiles (template : String) (m : Matcher) : Prop :=
  ∃ patterns types limit, Matcher.compile patterns types limit template = .ok m

lemma rightUnique_compiles : Relator.RightUnique Compiles := by
  rintro template m m' ⟨_, _, _, h⟩ ⟨_, _, _, h'⟩
  exact Matcher.compile_unique h h'

lemma compileResponder_unique {r : Responder} {bs bs' : List Binding}
    (h : d.compileResponder r = .ok bs) (h' : d'.compileResponder r = .ok bs') : bs = bs' := by
  obtain ⟨ms, hms, rfl⟩ := compileResponder_eq_ok_iff.mp h
  obtain ⟨ms', hms', rfl⟩ := compileResponder_eq_ok_iff.mp h'
  have hms : List.Forall₂ Compiles r.templates ms := hms.imp fun _ _ h => ⟨_, _, _, h⟩
  have hms' : List.Forall₂ Compiles r.templates ms' := hms'.imp fun _ _ h => ⟨_, _, _, h⟩
  rw [rightUnique_compiles.forall₂ hms hms']

lemma compileResponders_unique {rs : List Responder} {bs bs' : List Binding}
    (h : d.compileResponders rs = .ok bs) (h' : d'.compileResponders rs = .ok bs') :
    bs = bs' := by
  obtain ⟨lists, hlists, rfl⟩ := compileResponders_eq_ok_iff.mp h
  obtain ⟨lists', hlists', rfl⟩ := compileResponders_eq_ok_iff.mp h'
  clear h h'
  congr 1
  induction hlists generalizing lists' with
  | nil => exact (List.forall₂_nil_left_iff.mp hlists').symm
  | cons hr _ ih =>
      obtain ⟨bs', lists', hr', hrest', rfl⟩ := List.forall₂_cons_left_iff.mp hlists'
      rw [compileResponder_unique hr hr', ih _ hrest']

lemma compileGoals_unique : ∀ {gs : List GoalDeclaration} {compiled goals goals' : List Goal},
    d.compileGoals compiled gs = .ok goals → d'.compileGoals compiled gs = .ok goals' →
      goals = goals'
  | [], _, _, _, h, h' => by
      rw [compileGoals] at h h'
      exact Except.ok.inj (h.symm.trans h')
  | g :: gs, _, _, _, h, h' => by
      obtain ⟨_, bs, hbs, h⟩ := compileGoals_cons_eq_ok_iff.mp h
      obtain ⟨_, bs', hbs', h'⟩ := compileGoals_cons_eq_ok_iff.mp h'
      rw [compileResponders_unique hbs hbs'] at h
      exact compileGoals_unique h h'

/-- **There is one model at most** of the same types, responders and goals, whatever the limit and
the builder. -/
theorem build_unique (htypes : d.types = d'.types) (hresponders : d.responders = d'.responders)
    (hgoals : d.goals = d'.goals) {m m' : Model} (h : d.build = .ok m) (h' : d'.build = .ok m') :
    m = m' := by
  obtain ⟨hmtypes, hmglobals, hmgoals⟩ := build_eq_ok_iff.mp h
  obtain ⟨hmtypes', hmglobals', hmgoals'⟩ := build_eq_ok_iff.mp h'
  rw [hresponders] at hmglobals
  rw [hgoals] at hmgoals
  obtain ⟨types, globals, goals⟩ := m
  obtain ⟨types', globals', goals'⟩ := m'
  simp only at hmtypes hmtypes' hmglobals hmglobals' hmgoals hmgoals'
  rw [compileResponders_unique hmglobals hmglobals', compileGoals_unique hmgoals hmgoals', hmtypes,
    hmtypes', htypes]

end Declarations

end Dialogue
