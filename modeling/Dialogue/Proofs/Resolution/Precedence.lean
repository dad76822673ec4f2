import Dialogue.Resolution
import Dialogue.Session.Basic
import Dialogue.Proofs.Dict
import Dialogue.Proofs.Text.Words
import Mathlib.Tactic.Common

/-!
# Which binding understands an utterance

Understanding is a search with three levels: scopes, the bindings of a scope, the phrasings of a
binding.  Read as one list, the search is simple: `Model.attempts` has an entry for every phrasing
that is tried, in the order in which they are tried, and the first entry that captures values which
the input types accept is the answer.

* `Attempt`, `Model.attempts` — the flattened search.
* `InputTypes.Accepts` — that a capture is accepted as certain values, said slot by slot.
* `resolve_eq` — the three nested searches are one search of the flat list.
* **`resolve_eq_ok_iff`** — which utterances are understood, by which binding, and as what.
-/

namespace Dialogue

/-! ## Acceptance, slot by slot -/

/-- The captured texts are accepted, and `values` holds the value of each and nothing else. -/
def InputTypes.Accepts (types : InputTypes) (captured : Dict String) (values : Dict Json) : Prop :=
  (∀ slot raw, captured.find? slot = some raw →
    ∃ value, types.coerce slot raw = .ok value ∧ values.find? slot = some value) ∧
  ∀ slot, captured.find? slot = none → values.find? slot = none

/-- The value that one captured text is accepted as, if it is. -/
def InputTypes.accepted? (types : InputTypes) (e : String × String) : Option (String × Json) :=
  match types.coerce e.1 e.2 with
  | .ok v => some (e.1, v)
  | .error _ => none

lemma InputTypes.coerceAll?_eq (types : InputTypes) (captured : Dict String) :
    types.coerceAll? captured = (captured.entries.mapM types.accepted?).map .ofList := rfl

lemma InputTypes.accepted?_eq_some {types : InputTypes} {e : String × String}
    {e' : String × Json} :
    types.accepted? e = some e' ↔ e'.1 = e.1 ∧ types.coerce e.1 e.2 = .ok e'.2 := by
  rcases e' with ⟨name, value⟩
  rw [accepted?]
  cases h : types.coerce e.1 e.2 with
  | ok v => simp [eq_comm]
  | error err => simp

lemma InputTypes.mapM_accepted? {types : InputTypes} :
    ∀ {es : List (String × String)} {es' : List (String × Json)},
      es.mapM types.accepted? = some es' ↔
        List.Forall₂ (fun e e' => types.accepted? e = some e') es es'
  | [], es' => by
      cases es' with
      | nil => simp
      | cons e' es' => simp
  | e :: es, es' => by
      have ih : ∀ es'', es.mapM types.accepted? = some es'' ↔
          List.Forall₂ (fun e e' => types.accepted? e = some e') es es'' :=
        fun es'' => mapM_accepted?
      rw [List.mapM_cons]
      cases es' with
      | nil => simp [Option.bind_eq_some_iff]
      | cons e' es' => simp [Option.bind_eq_some_iff, ih]

/-- Looking up the values of a list of accepted texts is coercing what is looked up there. -/
lemma InputTypes.lookup_accepted {types : InputTypes} {es : List (String × String)}
    {es' : List (String × Json)} (h : List.Forall₂ (fun e e' => types.accepted? e = some e') es es')
    (slot : String) :
    (∀ raw, es.lookup slot = some raw →
      ∃ value, types.coerce slot raw = .ok value ∧ es'.lookup slot = some value) ∧
    (es.lookup slot = none → es'.lookup slot = none) := by
  induction h with
  | nil => simp
  | @cons e e' es es' he _ ih =>
      obtain ⟨name, text⟩ := e
      obtain ⟨name', value⟩ := e'
      obtain ⟨hname, hvalue⟩ := accepted?_eq_some.mp he
      simp only at hname hvalue
      subst name'
      by_cases hs : slot = name
      · subst slot
        simp [hvalue]
      · simpa [List.lookup_cons, beq_false_of_ne hs] using ih

/-- A capture is accepted as one dictionary of values at most. -/
lemma InputTypes.Accepts.unique {types : InputTypes} {captured : Dict String}
    {values values' : Dict Json} (h : types.Accepts captured values)
    (h' : types.Accepts captured values') : values = values' := by
  refine Dict.ext_find? fun slot => ?_
  cases hc : captured.find? slot with
  | none => rw [h.2 slot hc, h'.2 slot hc]
  | some raw =>
      obtain ⟨v, hv, hfind⟩ := h.1 slot raw hc
      obtain ⟨v', hv', hfind'⟩ := h'.1 slot raw hc
      have : v = v' := Except.ok.inj (hv.symm.trans hv')
      rw [hfind, hfind', this]

lemma InputTypes.accepts_of_coerceAll? {types : InputTypes} {captured : Dict String}
    {values : Dict Json} (h : types.coerceAll? captured = some values) :
    types.Accepts captured values := by
  rw [coerceAll?_eq] at h
  obtain ⟨es', hes', rfl⟩ := Option.map_eq_some_iff.mp h
  have hall := mapM_accepted?.mp hes'
  have hnames : captured.entries.map (·.1) = es'.map (·.1) := by
    refine List.forall₂_eq_eq_eq ▸ ?_
    rw [List.forall₂_map_left_iff, List.forall₂_map_right_iff]
    exact hall.imp fun e e' he => (accepted?_eq_some.mp he).1.symm
  -- the values stand under the captured names, so they are in order already
  have hasc : es'.Pairwise fun a b => a.1 < b.1 := by
    have := captured.ascending
    rw [← List.pairwise_map (f := Prod.fst) (R := (· < ·))] at this ⊢
    exact hnames ▸ this
  have hlist : Dict.ofList es' = ⟨es', hasc⟩ := Dict.ofList_entries ⟨es', hasc⟩
  rw [hlist]
  exact ⟨fun slot => (lookup_accepted hall slot).1, fun slot => (lookup_accepted hall slot).2⟩

/-- **Coercing a capture, slot by slot.**  It gives values exactly if every captured text is
accepted, and then the values are those of the captured texts. -/
theorem InputTypes.coerceAll?_eq_some_iff {types : InputTypes} {captured : Dict String}
    {values : Dict Json} :
    types.coerceAll? captured = some values ↔ types.Accepts captured values := by
  refine ⟨accepts_of_coerceAll?, fun h => ?_⟩
  have hsome : (captured.entries.mapM types.accepted?).isSome := by
    have hall : ∀ e ∈ captured.entries, (types.accepted? e).isSome := by
      rintro ⟨slot, raw⟩ he
      obtain ⟨v, hv, _⟩ := h.1 slot raw (Dict.mem_entries.mp he)
      simp [accepted?, hv]
    generalize captured.entries = es at hall
    induction es with
    | nil => simp
    | cons e es ih =>
        obtain ⟨he, hes⟩ := List.forall_mem_cons.mp hall
        obtain ⟨e', he'⟩ := Option.isSome_iff_exists.mp he
        obtain ⟨es', hes'⟩ := Option.isSome_iff_exists.mp (ih hes)
        simp [List.mapM_cons, he', hes']
  obtain ⟨es', hes'⟩ := Option.isSome_iff_exists.mp hsome
  have hcoerce : types.coerceAll? captured = some (.ofList es') := by
    rw [coerceAll?_eq, hes', Option.map_some]
  rw [hcoerce, (accepts_of_coerceAll? hcoerce).unique h]

/-! ## The search as one list -/

/-- A phrasing that is tried, with the binding it belongs to and the scope of that binding. -/
structure Attempt where
  scope : Scope
  binding : Binding
  phrasing : Phrasing

/-- The phrasings of bindings that are tried in a scope: binding by binding, and those of one
binding in the order of its matcher. -/
def attemptsIn (scope : Scope) (bindings : List Binding) : List Attempt :=
  bindings.flatMap fun b => b.matcher.phrasings.map fun p => ⟨scope, b, p⟩

/-- The attempts that the active goal contributes: none if no goal is active or if the active one
is not registered. -/
def Model.goalAttempts (m : Model) : Option String → List Attempt
  | none => []
  | some id =>
    match m.goal? id with
    | none => []
    | some g => attemptsIn (.goal id) g.bindings

/-- Everything that is tried while a goal is active, or none is, in order. -/
def Model.attempts (m : Model) (activeGoal : Option String) : List Attempt :=
  m.goalAttempts activeGoal ++ attemptsIn .global m.globals

/-- The attempt captures something from a normalized text, and the input types accept it as
`values`. -/
def Attempt.Accepted (m : Model) (normalized : String) (a : Attempt) (values : Dict Json) : Prop :=
  ∃ captured, a.phrasing.captures? normalized = some captured ∧ m.types.Accepts captured values

/-- What an attempt that is accepted amounts to. -/
def Attempt.result? (m : Model) (normalized : String) (a : Attempt) : Option Resolution :=
  ((a.phrasing.captures? normalized).bind m.types.coerceAll?).map (⟨a.binding, a.scope, ·⟩)

lemma Attempt.result?_eq_some_iff {m : Model} {normalized : String} {a : Attempt}
    {r : Resolution} :
    a.result? m normalized = some r ↔
      r.binding = a.binding ∧ r.scope = a.scope ∧ a.Accepted m normalized r.values := by
  rcases r with ⟨binding, scope, values⟩
  simp only [result?, Option.map_eq_some_iff, Option.bind_eq_some_iff, Resolution.mk.injEq,
    Accepted, InputTypes.coerceAll?_eq_some_iff]
  constructor
  · rintro ⟨values', h, rfl, rfl, rfl⟩
    exact ⟨rfl, rfl, h⟩
  · rintro ⟨rfl, rfl, h⟩
    exact ⟨values, h, rfl, rfl, rfl⟩

lemma Attempt.result?_eq_none_iff {m : Model} {normalized : String} {a : Attempt} :
    a.result? m normalized = none ↔ ¬ ∃ values, a.Accepted m normalized values := by
  rw [Option.eq_none_iff_forall_ne_some]
  constructor
  · rintro h ⟨values, hv⟩
    exact h ⟨a.binding, a.scope, values⟩ (result?_eq_some_iff.mpr ⟨rfl, rfl, hv⟩)
  · rintro h r hr
    exact h ⟨r.values, (result?_eq_some_iff.mp hr).2.2⟩

/-- A search through pieces, each of which is searched in turn, is a search through all of them. -/
lemma findSome?_flatMap {α β γ : Type} (xs : List α) (f : α → List β) (g : β → Option γ) :
    (xs.flatMap f).findSome? g = xs.findSome? fun x => (f x).findSome? g := by
  simp only [← List.head?_filterMap, List.filterMap_flatMap, List.head?_flatMap]

lemma firstMatch?_eq (m : Model) (scope : Scope) (normalized : String) (bindings : List Binding) :
    m.firstMatch? scope normalized bindings =
      (attemptsIn scope bindings).findSome? (Attempt.result? m normalized) := by
  rw [attemptsIn, findSome?_flatMap]
  refine congrArg (bindings.findSome? ·) (funext fun b => ?_)
  rw [List.findSome?_map, Matcher.candidates, ← List.head?_filterMap, List.filterMap_filterMap,
    List.head?_filterMap, List.map_findSome?]
  rfl

lemma attempts_eq (m : Model) (activeGoal : Option String) :
    m.attempts activeGoal = (m.scopes activeGoal).flatMap fun x => attemptsIn x.1 x.2 := by
  cases activeGoal with
  | none => simp [Model.scopes, Model.attempts, Model.goalAttempts]
  | some id =>
      cases hg : m.goal? id with
      | none => simp [Model.scopes, Model.attempts, Model.goalAttempts, hg]
      | some g =>
          have hid : g.id = id := by simpa using List.find?_some hg
          simp [Model.scopes, Model.attempts, Model.goalAttempts, hg, hid]

/-- **The search as one list.**  An utterance with a word is understood by the first attempt that is
accepted; nothing else is understood. -/
theorem resolve_eq (m : Model) (activeGoal : Option String) (utterance : String) :
    m.resolve activeGoal utterance =
      match (if Text.hasWord (Text.normalize utterance) then
          (m.attempts activeGoal).findSome? (Attempt.result? m (Text.normalize utterance))
        else none) with
      | some r => .ok r
      | none => .error ⟨utterance, activeGoal⟩ := by
  have hsearch : (m.attempts activeGoal).findSome?
        (Attempt.result? m (Text.normalize utterance)) =
      (m.scopes activeGoal).findSome? fun x =>
        m.firstMatch? x.1 (Text.normalize utterance) x.2 := by
    rw [attempts_eq, findSome?_flatMap]
    exact congrArg (List.findSome? · _) (funext fun x => (firstMatch?_eq m x.1 _ x.2).symm)
  rw [hsearch]
  rfl

/-- What is understood, if anything is. -/
lemma toOption_resolve (m : Model) (activeGoal : Option String) (utterance : String) :
    (m.resolve activeGoal utterance).toOption =
      if Text.hasWord (Text.normalize utterance) then
        (m.attempts activeGoal).findSome? (Attempt.result? m (Text.normalize utterance))
      else none := by
  rw [resolve_eq]
  split
  · rename_i r hfound
    rw [hfound]
    rfl
  · rename_i hfound
    rw [hfound]
    rfl

lemma resolve_eq_ok_iff {m : Model} {activeGoal : Option String} {utterance : String}
    {r : Resolution} :
    m.resolve activeGoal utterance = .ok r ↔
      Text.hasWord utterance = true ∧ ∃ before a after,
        m.attempts activeGoal = before ++ a :: after ∧
        (r.binding = a.binding ∧ r.scope = a.scope ∧
          a.Accepted m (Text.normalize utterance) r.values) ∧
        ∀ b ∈ before, ¬ ∃ values, b.Accepted m (Text.normalize utterance) values := by
  have hfound : ∀ found : Option Resolution,
      (match found with
        | some r => Except.ok r
        | none => Except.error (⟨utterance, activeGoal⟩ : NoMatch)) = .ok r ↔ found = some r := by
    intro found
    cases found <;> simp
  rw [resolve_eq, hfound, Text.hasWord_normalize]
  by_cases hword : Text.hasWord utterance = true
  · rw [if_pos hword, List.findSome?_eq_some_iff]
    simp only [hword, true_and, Attempt.result?_eq_some_iff, Attempt.result?_eq_none_iff]
  · simp [hword]

lemma resolve_eq_error_of {m : Model} {activeGoal : Option String} {utterance : String}
    (h : ∀ r, m.resolve activeGoal utterance ≠ .ok r) :
    m.resolve activeGoal utterance = .error ⟨utterance, activeGoal⟩ := by
  rw [resolve_eq] at h ⊢
  split
  · rename_i r hr
    exact absurd (by rw [hr]) (h r)
  · rfl

/-- An utterance is understood if it holds a word and something is accepted. -/
lemma exists_resolve_eq_ok_iff {m : Model} {activeGoal : Option String} {utterance : String} :
    (∃ r, m.resolve activeGoal utterance = .ok r) ↔
      Text.hasWord utterance = true ∧ ∃ a ∈ m.attempts activeGoal, ∃ values,
        a.Accepted m (Text.normalize utterance) values := by
  constructor
  · rintro ⟨r, hr⟩
    obtain ⟨hword, before, a, after, hsplit, ⟨_, _, ha⟩, _⟩ := resolve_eq_ok_iff.mp hr
    exact ⟨hword, a, by simp [hsplit], r.values, ha⟩
  · rintro ⟨hword, a, ha, values, hvalues⟩
    have hsome : ((m.attempts activeGoal).findSome?
        (Attempt.result? m (Text.normalize utterance))).isSome := by
      refine List.findSome?_isSome_iff.mpr ⟨a, ha, ?_⟩
      rw [Attempt.result?_eq_some_iff (r := ⟨a.binding, a.scope, values⟩) |>.mpr
        ⟨rfl, rfl, hvalues⟩]
      rfl
    obtain ⟨r, hr⟩ := Option.isSome_iff_exists.mp hsome
    refine ⟨r, ?_⟩
    rw [resolve_eq, Text.hasWord_normalize, if_pos hword, hr]

/-! ## Scopes -/

lemma mem_attemptsIn {scope : Scope} {bindings : List Binding} {a : Attempt}
    (h : a ∈ attemptsIn scope bindings) : a.scope = scope ∧ a.binding ∈ bindings := by
  obtain ⟨b, hb, ha⟩ := List.mem_flatMap.mp h
  obtain ⟨p, _, rfl⟩ := List.mem_map.mp ha
  exact ⟨rfl, hb⟩

lemma mem_goalAttempts {m : Model} {activeGoal : Option String} {a : Attempt}
    (h : a ∈ m.goalAttempts activeGoal) :
    ∃ id g, activeGoal = some id ∧ m.goal? id = some g ∧ a.scope = .goal id ∧
      a.binding ∈ g.bindings := by
  cases activeGoal with
  | none => simp [Model.goalAttempts] at h
  | some id =>
      rw [Model.goalAttempts] at h
      cases hg : m.goal? id with
      | none => simp [hg] at h
      | some g =>
          rw [hg] at h
          exact ⟨id, g, rfl, hg, mem_attemptsIn h⟩

/-- Only bindings of the active goal and global ones are tried; a suspended goal takes no part. -/
lemma scope_of_resolve {m : Model} {activeGoal : Option String} {utterance : String}
    {r : Resolution} (h : m.resolve activeGoal utterance = .ok r) :
    (r.scope = .global ∧ r.binding ∈ m.globals) ∨
    ∃ id g, activeGoal = some id ∧ m.goal? id = some g ∧ r.scope = .goal id ∧
      r.binding ∈ g.bindings := by
  obtain ⟨_, before, a, after, hsplit, ⟨hbinding, hscope, _⟩, _⟩ := resolve_eq_ok_iff.mp h
  have ha : a ∈ m.attempts activeGoal := by simp [hsplit]
  rw [hbinding, hscope]
  rcases List.mem_append.mp ha with hgoal | hglobal
  · exact .inr (mem_goalAttempts hgoal)
  · exact .inl (mem_attemptsIn hglobal)

/-- What is tried belongs to the model. -/
lemma binding_mem_of_mem_attempts {m : Model} {activeGoal : Option String} {a : Attempt}
    (h : a ∈ m.attempts activeGoal) :
    a.binding ∈ m.globals ∨ ∃ g ∈ m.goals, a.binding ∈ g.bindings := by
  rcases List.mem_append.mp h with hgoal | hglobal
  · obtain ⟨id, g, _, hg, _, hb⟩ := mem_goalAttempts hgoal
    exact .inr ⟨g, List.mem_of_find?_eq_some hg, hb⟩
  · exact .inl (mem_attemptsIn hglobal).2

lemma binding_mem_of_resolve {m : Model} {activeGoal : Option String} {utterance : String}
    {r : Resolution} (h : m.resolve activeGoal utterance = .ok r) :
    r.binding ∈ m.globals ∨ ∃ g ∈ m.goals, r.binding ∈ g.bindings := by
  obtain ⟨_, before, a, after, hsplit, ⟨hbinding, _, _⟩, _⟩ := resolve_eq_ok_iff.mp h
  have ha : a ∈ m.attempts activeGoal := by simp [hsplit]
  rw [hbinding]
  exact binding_mem_of_mem_attempts ha

/-- Whatever the active goal accepts comes before everything global. -/
lemma goal_scope_of_accepted {m : Model} {activeGoal : Option String} {utterance : String}
    {a : Attempt} {values : Dict Json} (ha : a ∈ m.goalAttempts activeGoal)
    (hvalues : a.Accepted m (Text.normalize utterance) values) {r : Resolution}
    (hr : m.resolve activeGoal utterance = .ok r) : ∃ id, activeGoal = some id ∧
      r.scope = .goal id := by
  obtain ⟨_, before, b, after, hsplit, ⟨_, hscope, _⟩, hbefore⟩ := resolve_eq_ok_iff.mp hr
  -- the accepted attempt is not before the one that was found, so that one is the goal's, too
  have hb : b ∈ m.goalAttempts activeGoal := by
    rcases List.append_eq_append_iff.mp hsplit with ⟨rest, hrest, _⟩ | ⟨rest, hrest, htail⟩
    · exact absurd ⟨values, hvalues⟩ (hbefore a (by simp [hrest, ha]))
    · cases rest with
      | nil =>
          rw [List.append_nil] at hrest
          exact absurd ⟨values, hvalues⟩ (hbefore a (hrest ▸ ha))
      | cons c rest =>
          obtain ⟨rfl, _⟩ := List.cons.inj htail
          simp [hrest]
  obtain ⟨id, g, hactive, _, hgoal, _⟩ := mem_goalAttempts hb
  exact ⟨id, hactive, hscope.trans hgoal⟩

/-- The normal form of an utterance decides how it is understood; a report of failure quotes it. -/
lemma resolve_congr {m : Model} {activeGoal : Option String} {utterance utterance' : String}
    (h : Text.normalize utterance' = Text.normalize utterance) :
    (m.resolve activeGoal utterance').mapError NoMatch.activeGoal =
      (m.resolve activeGoal utterance).mapError NoMatch.activeGoal := by
  rw [resolve_eq, resolve_eq, h]
  split <;> rfl

/-! ## The order of precedence -/

/-- **The first attempt that is accepted wins.**  An utterance is understood exactly if it holds a
word and some attempt is accepted, and it is understood by the first of them, with its scope and the
values of its captures; otherwise the report quotes the utterance and names the active goal.  So the
active goal comes before everything global, the suspended goals take no part, and the stack matters
through the id of its last entry only, the utterance through its normal form only. -/
theorem first_accepted_attempt_wins (m : Model) (s : Session) (utterance : String) :
    (∀ r, m.resolve s.activeGoal? utterance = .ok r ↔
      Text.hasWord utterance = true ∧ ∃ before a after,
        m.attempts s.activeGoal? = before ++ a :: after ∧
        (r.binding = a.binding ∧ r.scope = a.scope ∧
          a.Accepted m (Text.normalize utterance) r.values) ∧
        ∀ b ∈ before, ¬ ∃ values, b.Accepted m (Text.normalize utterance) values) ∧
    ((∃ r, m.resolve s.activeGoal? utterance = .ok r) ↔
      Text.hasWord utterance = true ∧ ∃ a ∈ m.attempts s.activeGoal?, ∃ values,
        a.Accepted m (Text.normalize utterance) values) ∧
    ((∀ r, m.resolve s.activeGoal? utterance ≠ .ok r) →
      m.resolve s.activeGoal? utterance = .error ⟨utterance, s.activeGoal?⟩) ∧
    (∀ a ∈ m.goalAttempts s.activeGoal?, ∀ values,
      a.Accepted m (Text.normalize utterance) values → ∀ r,
        m.resolve s.activeGoal? utterance = .ok r →
          ∃ id, s.activeGoal? = some id ∧ r.scope = .goal id) ∧
    (∀ r, m.resolve s.activeGoal? utterance = .ok r →
      (r.scope = .global ∧ r.binding ∈ m.globals) ∨
      ∃ id g, s.activeGoal? = some id ∧ m.goal? id = some g ∧ r.scope = .goal id ∧
        r.binding ∈ g.bindings) ∧
    (∀ s' : Session, s'.goals.ids.getLast? = s.goals.ids.getLast? →
      m.resolve s'.activeGoal? utterance = m.resolve s.activeGoal? utterance) ∧
    (∀ utterance', Text.normalize utterance' = Text.normalize utterance →
      (m.resolve s.activeGoal? utterance').mapError NoMatch.activeGoal =
        (m.resolve s.activeGoal? utterance).mapError NoMatch.activeGoal) := by
  refine ⟨fun r => resolve_eq_ok_iff, exists_resolve_eq_ok_iff, resolve_eq_error_of,
    fun a ha values hvalues r => goal_scope_of_accepted ha hvalues, fun r => scope_of_resolve,
    fun s' hs' => ?_, fun utterance' => resolve_congr⟩
  have hactive : ∀ s : Session, s.activeGoal? = s.goals.ids.getLast? := fun s => by
    simp [Session.activeGoal?, GoalStack.active?, GoalStack.top?, GoalStack.ids]
  rw [hactive, hactive, hs']

end Dialogue
